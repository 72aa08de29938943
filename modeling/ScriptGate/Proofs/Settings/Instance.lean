import ScriptGate.Proofs.Settings.InstanceUrl

/-! # The address that settings hold

The address of an instance is checked as it reads after some characters were ignored and its host
was put in lower case, but it is stored as it was given, without slashes at its end. So a stored
address need not be one when it is read as it is written (`SaysHostname`): it is exactly when
nothing in it was ignored and its host has no Kelvin sign, whose lower-case form is an ASCII letter
(`Instance.load_url_iff`). -/

namespace ScriptGate.Settings

open Text

variable {url name : List Char}

/-- An address of which nothing is ignored when it is read. -/
structure IsIntact (address : List Char) : Prop where
  start : ∀ char ∈ address.head?, 0x20 < char.toNat
  kept : ∀ char ∈ address, isIgnoredChar char = false

theorem isIntact_iff {address : List Char} :
    (address.head?.all fun char => decide (0x20 < char.toNat)) = true ∧
        address.all (!isIgnoredChar ·) = true ↔ IsIntact address := by
  simp only [Option.all_eq_true, decide_eq_true_eq, List.all_eq_true, Bool.not_eq_true']
  exact ⟨fun both => ⟨both.1, both.2⟩, fun intact => ⟨intact.start, intact.kept⟩⟩

instance (address : List Char) : Decidable (IsIntact address) := decidable_of_iff _ isIntact_iff

/-- What an address says as it is written: it is one of an encrypted connection, its authority names
a host of ASCII characters that is the given one up to their case, and nothing of it is ignored. -/
structure SaysHostname (address name : List Char) : Prop where
  intact : IsIntact address
  host : ∃ authority rest host, IsSecureAddress address authority rest ∧
    NamesHost authority host ∧ IsAscii host ∧ lowercaseAscii host = name

theorem IsIntact.significantChars_eq (intact : IsIntact url) : significantChars url = url := by
  have front : url.dropWhile (fun char => decide (char.toNat ≤ 0x20)) = url := by
    cases url with
    | nil => rfl
    | cons char url =>
        refine List.dropWhile_cons_of_neg ?_
        rw [decide_eq_true_eq]
        exact Nat.not_le.mpr (intact.start char rfl)
  rw [significantChars, front, List.filter_eq_self]
  exact fun char inUrl => by rw [intact.kept char inUrl, Bool.not_false]

/-- An address starts as what is stored of it does, and a slash at its end is never ignored. -/
theorem isIntact_storedUrl_iff (nonempty : storedUrl url ≠ []) :
    IsIntact (storedUrl url) ↔ IsIntact url := by
  obtain ⟨slashes, parts, areSlashes⟩ := exists_eq_storedUrl_append url
  have slashesKept : ∀ char ∈ slashes, isIgnoredChar char = false := by
    intro char inSlashes
    cases areSlashes char inSlashes
    decide
  generalize storedUrl url = stored at parts nonempty ⊢
  cases parts
  constructor
  · rintro ⟨start, kept⟩
    refine ⟨?_, List.forall_mem_append.mpr ⟨kept, slashesKept⟩⟩
    rwa [List.head?_append_of_ne_nil _ nonempty]
  · rintro ⟨start, kept⟩
    refine ⟨?_, (List.forall_mem_append.mp kept).1⟩
    rwa [List.head?_append_of_ne_nil _ nonempty] at start

/-! ### Host names in ASCII -/

theorem IsHostLabel.isAscii {label : List Char} (isLabel : IsHostLabel label) : IsAscii label := by
  intro char inLabel
  have isChar := isLabel.chars char inLabel
  rw [isLabelChar, Bool.or_eq_true, Bool.or_eq_true, isAsciiLetter_iff, isAsciiDigit_iff,
    decide_eq_true_eq] at isChar
  rcases isChar with (letter | digit) | rfl
  · omega
  · omega
  · decide

theorem IsHostname.isAscii (isHostname : IsHostname name) : IsAscii name := by
  obtain ⟨labels, nonempty, areLabels, rfl⟩ := isHostname
  obtain ⟨first, others, rfl⟩ := List.exists_cons_of_ne_nil nonempty
  obtain ⟨isFirst, areOthers⟩ := List.forall_mem_cons.mp areLabels
  rw [intercalate_cons]
  refine List.forall_mem_append.mpr ⟨isFirst.isAscii, fun char inOthers => ?_⟩
  obtain ⟨_, pointed, inPointed⟩ := List.mem_flatten.mp inOthers
  obtain ⟨label, inLabels, rfl⟩ := List.mem_map.mp pointed
  rcases List.mem_cons.mp inPointed with rfl | inLabel
  · decide
  · exact (areOthers label inLabels).isAscii char inLabel

/-! ### The stored address -/

theorem IsSecureAddress.nonempty {text authority rest : List Char}
    (isAddress : IsSecureAddress text authority rest) : text ≠ [] := by
  obtain ⟨scheme, _, rfl⟩ := isAddress.parts
  exact List.append_ne_nil_of_right_ne_nil scheme (List.cons_ne_nil _ _)

/-- Of an accepted address, what is stored says the accepted host name exactly when the given text
says it without the reading that ignores characters and folds the Kelvin sign. -/
theorem saysHostname_storedUrl_iff (accepted : isInstanceUrl url = true)
    (found : hostname? (originOf url).2 = some name) :
    SaysHostname (storedUrl url) name ↔
      IsIntact url ∧ kelvinSign ∉ hostText (originOf url).2 := by
  obtain ⟨secure, _, found', isHostname⟩ := isInstanceUrl_iff.mp accepted
  cases found.symm.trans found'
  have origin : originOf (storedUrl url) = (secureScheme, (originOf url).2) :=
    (originOf_storedUrl_of_accepted accepted).trans (Prod.ext secure rfl)
  obtain ⟨rest, isAddress⟩ := (originOf_eq_iff (isHostname.authority_nonempty found)).mp origin
  have nonempty : storedUrl url ≠ [] := by
    intro nothing
    rw [nothing] at isAddress
    exact isAddress.nonempty rfl
  rw [← isIntact_storedUrl_iff nonempty]
  constructor
  · rintro ⟨intact, authority, rest, host, literal, names, ascii, same⟩
    have authorityNonempty : authority ≠ [] := by
      rintro rfl
      rw [List.subset_nil.mp names.subset] at same
      exact isHostname.nonempty same.symm
    rw [← intact.significantChars_eq] at literal
    rw [(originOf_eq_iff authorityNonempty).mpr ⟨rest, literal⟩] at origin
    obtain ⟨_, rfl⟩ := Prod.mk.inj origin
    rw [(namesHost_iff.mp names).2]
    exact ⟨intact, fun kelvin => absurd (ascii kelvinSign kelvin) (by decide)⟩
  · rintro ⟨intact, noKelvin⟩
    rw [intact.significantChars_eq] at isAddress
    obtain ⟨host, names, _, rfl⟩ := hostname?_eq_some_iff.mp found
    rw [(namesHost_iff.mp names).2] at noKelvin
    have ascii := isAscii_of_lowercase isHostname.isAscii noKelvin
    exact ⟨intact, _, rest, host, isAddress, names, ascii, (lowercase_of_isAscii ascii).symm⟩

theorem Source.required_eq_ok_iff {α : Type} {source : Source} {setting : SettingName}
    {check : String → Json → Checked α} {value : α} :
    source.required setting check = .ok value ↔
      ∃ given, source.value? setting = some given ∧ check setting.keyword given = .ok value := by
  rw [Source.required]
  split
  · next given found => simp only [found, Option.some.injEq, exists_eq_left']
  · next found => simp [found, Checked.refuse]

/-- **When the stored address is the one that was checked.** Settings hold the accepted address as
it was given, without the slashes at its end. It says the host name that was accepted exactly when
nothing of the given address is ignored and no Kelvin sign stands in its host. -/
theorem Instance.load_url_iff {source : Source} {settings : Instance}
    (loaded : Instance.load source = .ok settings) :
    ∃ (given : String) (name : List Char),
      source.value? Instance.urlName = some (.str given) ∧
      isInstanceUrl given.toList = true ∧ hostname? (originOf given.toList).2 = some name ∧
      settings.url.toList = storedUrl given.toList ∧
      (SaysHostname settings.url.toList name ↔
        IsIntact given.toList ∧ kelvinSign ∉ hostText (originOf given.toList).2) := by
  obtain ⟨values, checked, rfl⟩ := Checked.toRecord_eq_ok_iff.mp loaded
  obtain ⟨_, isGiven, isUrl⟩ := Source.required_eq_ok_iff.mp (Checked.both_eq_ok_iff.mp checked).1
  obtain ⟨given, rfl, accepted, stored⟩ := checkUrl_eq_ok_iff.mp isUrl
  obtain ⟨_, name, found, _⟩ := isInstanceUrl_iff.mp accepted
  have literal := saysHostname_storedUrl_iff accepted found
  rw [← stored] at literal
  exact ⟨given, name, isGiven, accepted, found, stored, literal⟩

/-- An environment with an address, a user and a password. -/
def Environment.ofUrl (url : String) : Environment :=
  [("SERVICENOW_INSTANCE_URL", url), ("SERVICENOW_USERNAME", "admin"),
    ("SERVICENOW_PASSWORD", "secret")]

theorem Instance.load_url_iff_slash :
    ∃ settings, Instance.load (.ofEnvironment (.ofUrl "https://acme.service-now.com/")) =
        .ok settings ∧
      settings.url = "https://acme.service-now.com" ∧
      SaysHostname settings.url.toList "acme.service-now.com".toList := by
  have loaded : Instance.load (.ofEnvironment (.ofUrl "https://acme.service-now.com/")) =
      .ok ⟨"https://acme.service-now.com", "admin", "secret", Remote.defaultEndpoint⟩ := rfl
  obtain ⟨given, name, isGiven, _, found, _, literal⟩ := Instance.load_url_iff loaded
  have given_eq : Json.str "https://acme.service-now.com/" = .str given := Option.some.inj isGiven
  cases given_eq
  have name_eq : "acme.service-now.com".toList = name := Option.some.inj found
  exact ⟨_, loaded, rfl, name_eq ▸ literal.mpr ⟨by decide, by decide⟩⟩

/-- An accepted address of which something is stored that does not say the accepted host name. -/
def IsMisread (url : String) : Prop :=
  ∃ settings name, Instance.load (.ofEnvironment (.ofUrl url)) = .ok settings ∧
    hostname? (originOf url.toList).2 = some name ∧ ¬ SaysHostname settings.url.toList name

/-- A space in front, a tab in the host and a Kelvin sign for a letter are accepted and stored. -/
theorem Instance.load_url_unlike_hostname :
    IsMisread " https://dev12345.service-now.com" ∧
      IsMisread "https://dev12345\t.service-now.com" ∧
      IsMisread "https://\u212Aiosk.service-now.com" := by
  refine ⟨⟨_, _, rfl, rfl, fun literal => ?_⟩, ⟨_, _, rfl, rfl, fun literal => ?_⟩,
    ⟨_, _, rfl, rfl, fun literal => ?_⟩⟩
  · exact absurd (literal.intact.start ' ' rfl) (by decide)
  · exact absurd (literal.intact.kept '\t' (by decide)) (by decide)
  · have accepted : isInstanceUrl "https://\u212Aiosk.service-now.com".toList = true := by decide
    exact absurd ((saysHostname_storedUrl_iff accepted rfl).mp literal).2 (by decide)

end ScriptGate.Settings
