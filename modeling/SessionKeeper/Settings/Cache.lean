import SessionKeeper.Settings.Layers

/-!
# Settings that are loaded once

* `SettingsCache` : the settings of a process, once they are loaded.
* `SettingsCache.get`, `SettingsCache.forget` : the settings, loaded when they are first asked for.
-/

namespace SessionKeeper

/-- The settings of a process, if they are loaded, and how often that was done. -/
structure SettingsCache where
  kept : Option Settings
  loads : Nat

namespace SettingsCache

def empty : SettingsCache := ⟨none, 0⟩

/-- The settings: those that are kept, else those of the environment, which are kept from then on. -/
def get (c : SettingsCache) (files : Folder) (env : Environment) : Except Fault (Settings × SettingsCache) :=
  match c.kept with
  | some s => .ok (s, c)
  | none => do
    let s ← Settings.load files env
    return (s, ⟨some s, c.loads + 1⟩)

def forget (c : SettingsCache) : SettingsCache := { c with kept := none }

end SettingsCache

end SessionKeeper
