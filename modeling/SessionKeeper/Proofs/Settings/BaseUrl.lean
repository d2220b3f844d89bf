import SessionKeeper.Proofs.Settings.Issues
import SessionKeeper.Service
import SessionKeeper.Settings.Layers

/-!
# Base addresses that the settings accept

The settings look at the beginning of a base address before they take the slashes at its end away; the services look at
the host of what is left.

* `Settings.Kept` : the texts that the settings keep as base addresses.
* `Settings.kept_of_load` : settings that are loaded have such base addresses.
* `Settings.NamesHost` : what the services expect of a base address; `Settings.Kept.check_iff`.
* `Settings.Kept.accepted_iff`, `Settings.Kept.unchanged_iff` : a base address that is read as a setting once more.
* `Settings.base_urls_agree` : when the settings and the services agree.
-/

namespace SessionKeeper

/-! ## Trimming -/

namespace Text

theorem trimEnd_append (p : Char → Bool) (front cs : List Char) :
    trimEnd p (front ++ cs) = if trimEnd p cs = [] then trimEnd p front else front ++ trimEnd p cs := by
  unfold trimEnd
  rw [List.reverse_append, List.dropWhile_append]
  cases hback : cs.reverse.dropWhile p with
  | nil => simp
  | cons c rest => simp

theorem trimEnd_isPrefix (p : Char → Bool) (cs : List Char) : trimEnd p cs <+: cs := by
  unfold trimEnd
  have hsuffix := List.dropWhile_suffix p (l := cs.reverse)
  rwa [← List.reverse_prefix, List.reverse_reverse] at hsuffix

theorem trimEnd_eq_self {p : Char → Bool} {cs : List Char} :
    trimEnd p cs = cs ↔ ∀ c, cs.getLast? = some c → p c = false := by
  unfold trimEnd
  rw [List.getLast?_eq_head?_reverse, List.reverse_eq_iff]
  cases cs.reverse with
  | nil => simp
  | cons c rest =>
    cases hc : p c with
    | true =>
      have hshort := (List.dropWhile_suffix p (l := rest)).length_le
      simp only [List.dropWhile_cons, hc, if_true, List.head?_cons, Option.some.injEq, forall_eq']
      refine iff_of_false (fun heq => ?_) (by simp)
      have hlength := congrArg List.length heq
      simp only [List.length_cons] at hlength
      omega
    | false => simp [hc]

theorem getLast?_trimEnd {p : Char → Bool} {cs : List Char} {c : Char} (h : (trimEnd p cs).getLast? = some c) :
    p c = false := by
  unfold trimEnd at h
  rw [List.getLast?_reverse] at h
  have hhead := List.head?_dropWhile_not p cs.reverse
  rwa [h] at hhead

end Text

namespace Settings

open Text

/-! ## What the settings keep -/

def IsScheme (cs : List Char) : Prop := cs = "http".toList ∨ cs = "https".toList

/-- A scheme and a colon alone, or a scheme, two slashes and more that does not end with a slash. -/
inductive Kept : List Char → Prop
  | bare {scheme : List Char} (hscheme : IsScheme scheme) : Kept (scheme ++ [':'])
  | full {scheme after : List Char} (hscheme : IsScheme scheme) (hafter : after ≠ [])
    (hlast : after.getLast? ≠ some '/') : Kept (scheme ++ "://".toList ++ after)

theorem hasScheme_iff {cs : List Char} :
    hasScheme cs = true ↔ ∃ scheme after, IsScheme scheme ∧ cs = scheme ++ "://".toList ++ after := by
  unfold hasScheme
  rw [Bool.or_eq_true, List.isPrefixOf_iff_prefix, List.isPrefixOf_iff_prefix]
  constructor
  · rintro (⟨after, rfl⟩ | ⟨after, rfl⟩)
    · exact ⟨"http".toList, after, Or.inl rfl, rfl⟩
    · exact ⟨"https".toList, after, Or.inr rfl, rfl⟩
  · rintro ⟨scheme, after, rfl | rfl, rfl⟩
    · exact Or.inl ⟨after, rfl⟩
    · exact Or.inr ⟨after, rfl⟩

theorem IsScheme.trimEnd_front {scheme : List Char} (h : IsScheme scheme) :
    trimEnd (· = '/') (scheme ++ "://".toList) = scheme ++ [':'] := by
  rcases h with rfl | rfl <;> rfl

theorem kept_of_normalUrl {t u : String} (h : normalUrl t = .ok u) : Kept u.toList := by
  unfold normalUrl at h
  dsimp only at h
  split_ifs at h with hfront
  · obtain ⟨scheme, after, hscheme, hfull⟩ := hasScheme_iff.mp hfront
    obtain rfl := Checked.ok.inj h
    rw [String.toList_ofList, hfull, trimEnd_append]
    split_ifs with hrest
    · rw [hscheme.trimEnd_front]
      exact .bare hscheme
    · exact .full hscheme hrest fun hlast => by simpa using getLast?_trimEnd hlast
  · cases h

theorem kept_of_baseUrl {v : Value} {u : String} (h : baseUrl v = .ok u) : Kept u.toList := by
  unfold baseUrl andThen at h
  cases htext : v.text with
  | bad is =>
    rw [htext] at h
    cases h
  | ok t =>
    rw [htext] at h
    exact kept_of_normalUrl h

theorem kept_of_choices {choices : Choices} :
    ∀ s, ofChoices choices = .ok s → Kept s.registryBaseUrl.toList ∧ Kept s.providerBaseUrl.toList := by
  unfold ofChoices
  iterate 15 refine Checked.forall_seq ?_
  intro g hfirst
  obtain ⟨_, providerUrl, hmk, hprovider, rfl⟩ := Checked.of_seq hfirst
  obtain ⟨registryUrl, hregistry, rfl⟩ := Checked.of_map hmk
  intros
  constructor
  · rcases Checked.of_optional hregistry with rfl | ⟨v, hread⟩
    · have hfull : "http://localhost:8080".toList = "http".toList ++ "://".toList ++ "localhost:8080".toList := by
        decide
      exact hfull ▸ .full (Or.inl rfl) (by decide) (by decide)
    · exact kept_of_baseUrl hread
  · rcases Checked.of_optional hprovider with rfl | ⟨v, hread⟩
    · have hfull : "http://localhost:3000".toList = "http".toList ++ "://".toList ++ "localhost:3000".toList := by
        decide
      exact hfull ▸ .full (Or.inl rfl) (by decide) (by decide)
    · exact kept_of_baseUrl hread

theorem kept_of_load {files : Folder} {env : Environment} {s : Settings} (h : load files env = .ok s) :
    Kept s.registryBaseUrl.toList ∧ Kept s.providerBaseUrl.toList := by
  have hlayers {file : Choices} (hfile : ofLayers env file = .ok s) :
      Kept s.registryBaseUrl.toList ∧ Kept s.providerBaseUrl.toList := by
    unfold ofLayers at hfile
    cases hchoices : ofChoices (layered env file) with
    | bad is =>
      rw [hchoices] at hfile
      cases hfile
    | ok t =>
      rw [hchoices] at hfile
      obtain rfl := Except.ok.inj hfile
      exact kept_of_choices t hchoices
  unfold load at h
  split at h
  · rename_i path hpath
    cases hfile : fileChoices files path with
    | error e =>
      rw [hfile] at h
      cases h
    | ok file =>
      rw [hfile] at h
      exact hlayers h
  · exact hlayers h

/-! ## What the services expect -/

/-- What stands between two slashes and the path, the query or the fragment; line breaks and tabs do not count. -/
def hostPart (after : List Char) : List Char :=
  (after.filter fun c => c ≠ '\t' && c ≠ '\r' && c ≠ '\n').takeWhile fun c => c ≠ '/' && c ≠ '?' && c ≠ '#'

/-- The text names a scheme of the web and a host that is well formed. -/
def NamesHost (cs : List Char) : Prop :=
  ∃ scheme after, IsScheme scheme ∧ cs = scheme ++ "://".toList ++ after ∧ hostPart after ≠ [] ∧
    Endpoint.checkAuthority (hostPart after) = .ok ()

theorem IsScheme.takeScheme_full {scheme : List Char} (h : IsScheme scheme) (after : List Char) :
    Endpoint.takeScheme (Endpoint.cleaned (scheme ++ "://".toList ++ after)) =
      (scheme, '/' :: '/' :: after.filter fun c => c ≠ '\t' && c ≠ '\r' && c ≠ '\n') := by
  rcases h with rfl | rfl <;> rfl

theorem check_full {u : String} {scheme after : List Char} (hscheme : IsScheme scheme)
    (hu : u.toList = scheme ++ "://".toList ++ after) :
    Endpoint.check u = .ok () ↔ hostPart after ≠ [] ∧ Endpoint.checkAuthority (hostPart after) = .ok () := by
  have hfilled : scheme.isEmpty = false := by rcases hscheme with rfl | rfl <;> rfl
  unfold Endpoint.check
  rw [hu, hscheme.takeScheme_full]
  show (Endpoint.checkAuthority (hostPart after) >>= fun _ =>
    if scheme.isEmpty || (hostPart after).isEmpty then _ else _) = _ ↔ _
  rw [hfilled, Bool.false_or]
  cases Endpoint.checkAuthority (hostPart after) with
  | error e => simp [bind, Except.bind]
  | ok checked => cases hostPart after <;> simp [bind, Except.bind, pure, Except.pure]

theorem IsScheme.after_inj {scheme other after rest : List Char} (h : IsScheme scheme) (hother : IsScheme other)
    (hsame : scheme ++ "://".toList ++ after = other ++ "://".toList ++ rest) : after = rest := by
  rcases h with rfl | rfl <;> rcases hother with rfl | rfl <;> simp at hsame <;> exact hsame

/-- A scheme and a colon alone. -/
def IsBare (cs : List Char) : Prop := cs = "http:".toList ∨ cs = "https:".toList

theorem IsScheme.bare {scheme : List Char} (h : IsScheme scheme) : IsBare (scheme ++ [':']) := by
  rcases h with rfl | rfl
  · exact Or.inl rfl
  · exact Or.inr rfl

theorem IsScheme.not_bare {scheme : List Char} (h : IsScheme scheme) (after : List Char) :
    ¬ IsBare (scheme ++ "://".toList ++ after) := by
  rcases h with rfl | rfl <;> rintro (hbare | hbare) <;> simp at hbare

theorem Kept.check_iff {u : String} (h : Kept u.toList) : Endpoint.check u = .ok () ↔ NamesHost u.toList := by
  generalize hcs : u.toList = cs at h
  cases h with
  | @bare scheme hscheme =>
    have hrefused : Endpoint.check u ≠ .ok () := by
      unfold Endpoint.check
      rw [hcs]
      rcases hscheme with rfl | rfl <;> exact nofun
    refine iff_of_false hrefused ?_
    rintro ⟨other, after, hother, hfull, -⟩
    exact hother.not_bare after (hfull ▸ hscheme.bare)
  | @full scheme after hscheme hafter hlast =>
    rw [check_full hscheme hcs]
    constructor
    · exact fun hhost => ⟨scheme, after, hscheme, rfl, hhost⟩
    · rintro ⟨other, rest, hother, hsame, hhost⟩
      rwa [hscheme.after_inj hother hsame]

/-! ## Reading a base address once more -/

theorem IsScheme.trimBy_full {scheme : List Char} (h : IsScheme scheme) (after : List Char) :
    trimBy isBlank (scheme ++ "://".toList ++ after) = scheme ++ "://".toList ++ trimEnd isBlank after := by
  have hfront : (scheme ++ "://".toList ++ after).dropWhile isBlank = scheme ++ "://".toList ++ after := by
    rcases h with rfl | rfl <;> rfl
  have hend : trimEnd isBlank (scheme ++ "://".toList) = scheme ++ "://".toList := by
    rcases h with rfl | rfl <;> rfl
  unfold Text.trimBy
  rw [hfront, trimEnd_append, hend]
  split_ifs with hblank
  · rw [hblank, List.append_nil]
  · rfl

theorem normalUrl_full {u : String} {scheme after : List Char} (hscheme : IsScheme scheme)
    (hu : u.toList = scheme ++ "://".toList ++ after) :
    normalUrl u = .ok (String.ofList (trimEnd (· = '/') (trimEnd isBlank u.toList))) := by
  have htrim := hscheme.trimBy_full after
  have hfront : hasScheme (trimBy isBlank u.toList) = true := by
    rw [hu, htrim]
    exact hasScheme_iff.mpr ⟨scheme, _, hscheme, rfl⟩
  have hstart : u.toList.dropWhile isBlank = u.toList := by
    rw [hu]
    rcases hscheme with rfl | rfl <;> rfl
  unfold normalUrl
  dsimp only
  rw [if_pos hfront]
  unfold Text.trimBy
  rw [hstart]

theorem IsBare.normalUrl {u v : String} (h : IsBare u.toList) : Settings.normalUrl u ≠ .ok v := by
  unfold Settings.normalUrl
  rcases h with hu | hu <;> rw [hu] <;> exact nofun

/-- A base address is accepted when it is read once more, unless it is a scheme alone. -/
theorem Kept.accepted_iff {u : String} (h : Kept u.toList) : (∃ v, normalUrl u = .ok v) ↔ ¬ IsBare u.toList := by
  constructor
  · rintro ⟨v, hv⟩ hbare
    exact hbare.normalUrl hv
  · intro hbare
    generalize hcs : u.toList = cs at h
    cases h with
    | bare hscheme => exact absurd (hcs ▸ hscheme.bare) hbare
    | full hscheme => exact ⟨_, normalUrl_full hscheme hcs⟩

/-- A base address stays as it is when it is read once more, unless it is a scheme alone or ends with white space. -/
theorem Kept.unchanged_iff {u : String} (h : Kept u.toList) :
    normalUrl u = .ok u ↔ ¬ IsBare u.toList ∧ ∀ c, u.toList.getLast? = some c → isBlank c = false := by
  generalize hcs : u.toList = cs at h
  cases h with
  | bare hscheme =>
    refine iff_of_false (IsBare.normalUrl ?_) fun hboth => hboth.1 hscheme.bare
    rw [hcs]
    exact hscheme.bare
  | @full scheme after hscheme hafter hlast =>
    rw [normalUrl_full hscheme hcs, ← trimEnd_eq_self, hcs, and_iff_right (hscheme.not_bare after)]
    generalize hwhole : scheme ++ "://".toList ++ after = cs
    have hslash : trimEnd (· = '/') cs = cs := by
      rw [trimEnd_eq_self, ← hwhole]
      intro c hc
      rw [List.getLast?_append, List.getLast?_eq_some_getLast hafter, Option.some_or] at hc
      rw [List.getLast?_eq_some_getLast hafter, hc] at hlast
      simpa using hlast
    constructor
    · intro hsame
      have hu := congrArg String.toList (Checked.ok.inj hsame)
      rw [String.toList_ofList, hcs, hwhole] at hu
      refine (trimEnd_isPrefix isBlank cs).eq_of_length_le ?_
      have hshort := (trimEnd_isPrefix (· = '/') (trimEnd isBlank cs)).length_le
      rwa [hu] at hshort
    · intro hblank
      rw [hblank, hslash, ← hwhole, ← hcs, String.ofList_toList]

/-! ## Agreement -/

section Services

variable {τ : Type}

theorem registry_connect_iff (u : String) (g : Guard τ) :
    (∃ r, Registry.connect? u g = .ok r) ↔ Endpoint.check u = .ok () := by
  unfold Registry.connect?
  cases Endpoint.check u with
  | error e => simp [bind, Except.bind]
  | ok checked => simp [bind, Except.bind, pure, Except.pure]

theorem keyring_connect_iff (u : String) : (∃ k, Keyring.connect? u = .ok k) ↔ Endpoint.check u = .ok () := by
  unfold Keyring.connect?
  cases Endpoint.check u with
  | error e => simp [bind, Except.bind]
  | ok checked => simp [bind, Except.bind, pure, Except.pure]

theorem provider_connect_iff (u : String) : (∃ p, Provider.connect? u = .ok p) ↔ Endpoint.check u = .ok () := by
  rw [← keyring_connect_iff]
  unfold Provider.connect?
  cases Keyring.connect? u with
  | error e => simp [bind, Except.bind]
  | ok k => simp [bind, Except.bind, pure, Except.pure]

theorem service_iff (ofSeconds : Float → τ) (s : Settings) :
    (∃ service, Service.ofSettings ofSeconds s = .ok service) ↔
      Endpoint.check s.registryBaseUrl = .ok () ∧ Endpoint.check s.providerBaseUrl = .ok () := by
  rw [← registry_connect_iff _ (Service.guardOf ofSeconds s), ← provider_connect_iff]
  unfold Service.ofSettings
  cases hregistry : Registry.connect? s.registryBaseUrl (Service.guardOf ofSeconds s) with
  | error e => simp [hregistry, bind, Except.bind]
  | ok r => cases Provider.connect? s.providerBaseUrl <;> simp [hregistry, bind, Except.bind, pure, Except.pure]

end Services

/-- What holds of a base address in loaded settings: a service at it can be made exactly if it names a host, and reading
it as a setting once more is refused exactly if it is a scheme alone and changes it exactly if it ends with white
space. -/
structure Agrees {τ : Type} (g : Guard τ) (u : String) : Prop where
  registry : (∃ r, Registry.connect? u g = .ok r) ↔ NamesHost u.toList
  keyring : (∃ k, Keyring.connect? u = .ok k) ↔ NamesHost u.toList
  provider : (∃ p, Provider.connect? u = .ok p) ↔ NamesHost u.toList
  accepted : (∃ v, baseUrl (.plain (.text u)) = .ok v) ↔ ¬ IsBare u.toList
  unchanged : baseUrl (.plain (.text u)) = .ok u ↔
    ¬ IsBare u.toList ∧ ∀ c, u.toList.getLast? = some c → isBlank c = false

theorem Kept.agrees {τ : Type} {u : String} (h : Kept u.toList) (g : Guard τ) : Agrees g u where
  registry := (registry_connect_iff u g).trans h.check_iff
  keyring := (keyring_connect_iff u).trans h.check_iff
  provider := (provider_connect_iff u).trans h.check_iff
  accepted := h.accepted_iff
  unchanged := h.unchanged_iff

/-- The services of loaded settings can be made exactly if both base addresses name a host, and a base address that
does is left as it is when it is read as a setting once more, unless it ends with white space. -/
theorem base_urls_agree {τ : Type} {files : Folder} {env : Environment} {s : Settings} (h : load files env = .ok s)
    (g : Guard τ) (ofSeconds : Float → τ) :
    Agrees g s.registryBaseUrl ∧ Agrees g s.providerBaseUrl ∧
    ((∃ service, Service.ofSettings ofSeconds s = .ok service) ↔
      NamesHost s.registryBaseUrl.toList ∧ NamesHost s.providerBaseUrl.toList) := by
  obtain ⟨hregistry, hprovider⟩ := kept_of_load h
  refine ⟨hregistry.agrees g, hprovider.agrees g, ?_⟩
  rw [service_iff, hregistry.check_iff, hprovider.check_iff]

theorem base_urls_agree_registry :
    ∃ s, load [] [("EXECUTOR_REGISTRY_BASE_URL", "https://registry/")] = .ok s ∧
      (∀ g : Guard Number, ∃ r, Registry.connect? s.registryBaseUrl g = .ok r) ∧
      baseUrl (.plain (.text s.registryBaseUrl)) = .ok s.registryBaseUrl := by
  obtain ⟨s, hload, hurl⟩ : ∃ s, load [] [("EXECUTOR_REGISTRY_BASE_URL", "https://registry/")] = .ok s ∧
      s.registryBaseUrl = "https://registry" := ⟨_, rfl, rfl⟩
  have hagrees (g : Guard Number) := (base_urls_agree hload g Number.real).1
  refine ⟨s, hload, fun g => ?_, ?_⟩
  · refine (hagrees g).registry.mpr ?_
    rw [hurl]
    exact ⟨"https".toList, "registry".toList, Or.inr rfl, rfl, by decide, rfl⟩
  · refine (hagrees ⟨⟨5, .integer 60⟩, none⟩).unchanged.mpr ?_
    rw [hurl]
    refine ⟨by unfold IsBare; decide, ?_⟩
    rintro c ⟨⟩
    rfl

/-- A scheme and slashes are accepted as a base address, but the registry is not made of it and neither is it accepted
again; white space in front of the last slash is kept, but not for long. -/
theorem base_urls_apart :
    (∃ s, load [] [("EXECUTOR_REGISTRY_BASE_URL", "http://")] = .ok s ∧
      (∀ g : Guard Number, Registry.connect? s.registryBaseUrl g = .error (.badValue Endpoint.missingMessage none)) ∧
      ∀ v, baseUrl (.plain (.text s.registryBaseUrl)) ≠ .ok v) ∧
    ∃ s, load [] [("EXECUTOR_REGISTRY_BASE_URL", "http://h /")] = .ok s ∧ s.registryBaseUrl = "http://h " ∧
      baseUrl (.plain (.text s.registryBaseUrl)) = .ok "http://h" :=
  ⟨⟨_, rfl, fun _ => rfl, nofun⟩, ⟨_, rfl, rfl, rfl⟩⟩

end Settings

end SessionKeeper
