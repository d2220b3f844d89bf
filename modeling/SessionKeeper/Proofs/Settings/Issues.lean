import SessionKeeper.Proofs.Checked
import SessionKeeper.Settings

/-!
# What is wrong with a value

Only a list is looked at item by item; every other value is read or refused as a whole.

* `Field.text_whole` and the others, `Settings.Value.through_whole` : the readers of single values.
* `Settings.faultyItems`, `Settings.places_origins` : the items of a list that are no text.
-/

namespace SessionKeeper

variable {α β : Type}

/-! ## Single values -/

namespace Field

open Checked

theorem text_whole (j : Json) : (text j).Whole := by
  cases j with
  | text s => exact .ok s
  | _ => exact .problem _

theorem orNull_whole {read : Json → Checked α} (h : ∀ j, (read j).Whole) (j : Json) : (orNull read j).Whole := by
  cases j with
  | null => exact .ok none
  | _ => exact (h _).map some

theorem ofText_whole {read : String → Checked α} (h : ∀ s, (read s).Whole) (s : String) : (ofText read s).Whole :=
  .ite (.problem _) (h s)

theorem integerOfReal_whole (x : Float) : (integerOfReal x).Whole :=
  .ite (.problem _) (.ite (.problem _) (.ite (.ok _) (.problem _)))

theorem flagOfInteger_whole (i : Int) : (flagOfInteger i).Whole :=
  .ite (.ok _) (.ite (.ok _) (.ite (.problem _) (.problem _)))

theorem flagOfText_whole (s : String) : (flagOfText s).Whole := by
  unfold flagOfText
  cases flagWord? s with
  | some b => exact .ok b
  | none => exact .problem _

theorem flag_whole (j : Json) : (flag j).Whole := by
  cases j with
  | bool b => exact .ok b
  | number n =>
    cases n with
    | integer i => exact flagOfInteger_whole i
    | real x =>
      dsimp only [flag]
      cases integerOfReal x with
      | ok i => exact flagOfInteger_whole i
      | bad is => exact .problem _
  | text s => exact ofText_whole flagOfText_whole s
  | _ => exact .problem _

theorem integerOfText_whole (s : String) : (integerOfText s).Whole := by
  unfold integerOfText
  rcases readIntegerText s.toList with e | i
  · cases e <;> exact .problem _
  · exact .ok i

theorem integer_whole (j : Json) : (integer j).Whole := by
  cases j with
  | bool b => exact .ok _
  | number n =>
    cases n with
    | integer i => exact .ok i
    | real x => exact integerOfReal_whole x
  | text s => exact ofText_whole integerOfText_whole s
  | _ => exact .problem _

theorem realOfText_whole (s : String) : (realOfText s).Whole := by
  unfold realOfText
  cases readRealText? s.toList with
  | some x => exact .ok x
  | none => exact .problem _

theorem real_whole (j : Json) : (real j).Whole := by
  cases j with
  | bool b => exact .ok _
  | number n =>
    cases n with
    | integer i => exact .ite (.problem _) (.ok _)
    | real x => exact .ok x
  | text s => exact ofText_whole realOfText_whole s
  | _ => exact .problem _

end Field

namespace Settings

open Checked

theorem andThen_whole {c : Checked α} (h : c.Whole) {rule : α → Checked β} (hrule : ∀ a, (rule a).Whole) :
    (andThen c rule).Whole := by
  rcases h with ⟨a, rfl⟩ | ⟨p, rfl⟩
  · exact hrule a
  · exact .problem p

theorem Value.through_whole {read : Json → Checked α} (h : ∀ j, (read j).Whole) (garbled wrong : Problem) (v : Value) :
    (v.through read garbled wrong).Whole := by
  unfold Value.through
  cases v with
  | plain j => exact h j
  | octets bs =>
    dsimp only
    cases Text.decodeUtf8? false bs with
    | some cs => exact h _
    | none => exact .problem _
  | _ => exact .problem _

theorem Value.text_whole (v : Value) : v.text.Whole := through_whole Field.text_whole _ _ v

theorem Value.flag_whole (v : Value) : v.flag.Whole := through_whole Field.flag_whole _ _ v

theorem baseUrl_whole (v : Value) : (baseUrl v).Whole := andThen_whole v.text_whole fun _ => .ite (.ok _) (.problem _)

theorem token_whole (v : Value) : (token v).Whole :=
  (Value.through_whole (Field.orNull_whole Field.text_whole) _ _ v).map _

theorem above_whole (v : Value) : (above v).Whole :=
  andThen_whole (Value.through_whole Field.real_whole _ _ v) fun _ => .ite (.ok _) (.problem _)

theorem atLeastOne_whole (v : Value) : (atLeastOne v).Whole :=
  andThen_whole (Value.through_whole Field.integer_whole _ _ v) fun _ => .ite (.ok _) (.problem _)

theorem level_whole (v : Value) : (level v).Whole := v.text_whole.map _

/-! ## Lists -/

/-- The places of the items that are no text, counted from `i` on. -/
def faultyItems (i : Nat) (items : List Value) : List (List Place) :=
  ((items.zipIdx i).filter fun x => !x.1.text.isOk).map fun x => [.index x.2]

theorem places_itemsFrom (i : Nat) (items : List Value) :
    (Field.itemsFrom Value.text i items).places = faultyItems i items := by
  induction items generalizing i with
  | nil => rfl
  | cons v rest ih =>
    -- `issues_seq` does not see through the recursion of the reader, so its equation is stated first
    have hsplit : (Field.itemsFrom Value.text i (v :: rest)).issues =
        (v.text.under (.index i)).issues ++ (Field.itemsFrom Value.text (i + 1) rest).issues := by
      have hseq := issues_seq (List.cons <$> v.text.under (.index i)) (Field.itemsFrom Value.text (i + 1) rest)
      rwa [issues_map] at hseq
    have hfirst : (v.text.under (.index i)).places = if v.text.isOk then [] else [[.index i]] := by
      rw [places_under, v.text_whole.places_eq]
      split_ifs <;> rfl
    have hparts : (Field.itemsFrom Value.text i (v :: rest)).places =
        (v.text.under (.index i)).places ++ (Field.itemsFrom Value.text (i + 1) rest).places := by
      unfold places
      rw [hsplit, List.map_append]
    rw [hparts, hfirst, ih]
    cases h : v.text.isOk <;> simp [faultyItems, h]

theorem explained_itemsFrom (i : Nat) (items : List Value) : (Field.itemsFrom Value.text i items).Explained := by
  induction items generalizing i with
  | nil => exact nofun
  | cons v rest ih =>
    have hfirst := (v.text_whole.explained.under (.index i)).map (List.cons : String → List String → List String)
    exact hfirst.seq (ih (i + 1))

/-- The places in a list of origins that cannot be read: the items that are no text, or else all of it. -/
def faultyOrigins : Value → List (List Place)
  | .several items => faultyItems 0 items
  | v => if (origins v).isOk then [] else [[]]

theorem origins_whole {v : Value} (h : ∀ items, v ≠ .several items) : (origins v).Whole := by
  cases v with
  | plain j =>
    cases j with
    | text s => exact .ok _
    | _ => exact .problem _
  | several items => exact absurd rfl (h items)
  | _ => exact .problem _

theorem places_origins (v : Value) : (origins v).places = faultyOrigins v := by
  cases v with
  | several items => exact places_itemsFrom 0 items
  | _ => exact (origins_whole (by simp)).places_eq

theorem explained_origins (v : Value) : (origins v).Explained := by
  cases v with
  | several items => exact explained_itemsFrom 0 items
  | _ => exact (origins_whole (by simp)).explained

end Settings

end SessionKeeper
