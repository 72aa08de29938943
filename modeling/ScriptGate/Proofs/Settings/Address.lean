import Mathlib.Data.List.DropRight
import ScriptGate.Proofs.Text.Case
import ScriptGate.Settings.InstanceUrl

/-! # Addresses of instances

The parts of an address are described by how it is put together: a scheme, an authority and a rest
(`IsSecureAddress`), and in the authority a user, a host and a port (`NamesHost`). The functions
that take an address apart find exactly these parts. Slashes at the end of an address stand in its
rest, so that dropping them leaves the authority as it is (`originOf_storedUrl`). -/

namespace ScriptGate.Settings

open Remote Text

variable {url text scheme authority rest named host name slashes : List Char}

/-! ### Scheme and authority -/

/-- An address over an encrypted connection: the scheme in any letter case, the authority after two
slashes, and the rest, which starts with a character that no authority has. -/
structure IsSecureAddress (text authority rest : List Char) : Prop where
  parts : ∃ scheme, lowercaseAscii scheme = secureScheme ∧
    text = scheme ++ ':' :: '/' :: '/' :: (authority ++ rest)
  inside : ∀ char ∈ authority, isAuthorityChar char = true
  outside : ∀ char ∈ rest.head?, isAuthorityChar char = false

theorem ne_nil_of_lowercaseAscii (secure : lowercaseAscii scheme = secureScheme) : scheme ≠ [] := by
  rintro rfl
  cases secure

theorem isScheme_of_lowercaseAscii (secure : lowercaseAscii scheme = secureScheme) :
    isScheme scheme = true := by
  have secureLetters : secureScheme.all isAsciiLetter = true := by decide
  have letter : ∀ char ∈ scheme, isAsciiLetter char = true := by
    intro char inScheme
    rw [← eq_toLower_of_agree isAsciiLetter (by decide) char]
    exact List.all_eq_true.mp secureLetters _ (secure ▸ List.mem_map_of_mem inScheme)
  obtain ⟨first, others, rfl⟩ := List.exists_cons_of_ne_nil (ne_nil_of_lowercaseAscii secure)
  rw [isScheme, Bool.and_eq_true, List.all_eq_true]
  refine ⟨letter first List.mem_cons_self, fun char inScheme => ?_⟩
  rw [isSchemeChar, letter char inScheme, Bool.true_or, Bool.true_or]

theorem colon_not_mem_of_isScheme (isScheme : isScheme scheme = true) : ':' ∉ scheme := by
  intro colon
  rw [Remote.isScheme, Bool.and_eq_true, List.all_eq_true] at isScheme
  exact absurd (isScheme.2 ':' colon) (by decide)

theorem splitScheme_eq_iff (nonempty : scheme ≠ []) :
    splitScheme text = (scheme, rest) ↔ isScheme scheme = true ∧ text = scheme ++ ':' :: rest := by
  constructor
  · intro split
    rw [splitScheme] at split
    split at split
    · next mark after found =>
        split at split
        · next good =>
            obtain ⟨start, rfl⟩ := Prod.mk.inj split
            rw [start, Bool.or_eq_true, List.isEmpty_iff] at good
            refine ⟨good.resolve_left nonempty, ?_⟩
            obtain ⟨noColon, rfl | ⟨located, rfl⟩⟩ := takeWhile_ne_eq_iff.mp start
            · rw [dropWhile_ne_of_absent noColon] at found
              cases found
            · rw [dropWhile_ne_append noColon] at found
              cases found
              rfl
        · exact absurd (Prod.mk.inj split).1.symm nonempty
    · exact absurd (Prod.mk.inj split).1.symm nonempty
  · rintro ⟨isScheme, rfl⟩
    have noColon := colon_not_mem_of_isScheme isScheme
    have start := takeWhile_ne_eq_iff.mpr ⟨noColon, .inr ⟨rest, rfl⟩⟩
    simp only [splitScheme, start, dropWhile_ne_append noColon, isScheme, Bool.or_true, ↓reduceIte]

theorem splitAuthority_eq_iff (nonempty : authority ≠ []) :
    splitAuthority text = (authority, rest) ↔
      text = '/' :: '/' :: (authority ++ rest) ∧
        (∀ char ∈ authority, isAuthorityChar char = true) ∧
          ∀ char ∈ rest.head?, isAuthorityChar char = false := by
  constructor
  · intro split
    rw [splitAuthority] at split
    split at split
    · next located found =>
        cases dropStart?_eq_some_iff.mp found
        obtain ⟨start, after⟩ := Prod.mk.inj split
        obtain ⟨inside, _⟩ := takeWhile_eq_iff.mp start
        obtain ⟨rfl, outside⟩ := (takeWhile_eq_and_dropWhile_eq_iff inside).mp ⟨start, after⟩
        exact ⟨rfl, inside, outside⟩
    · exact absurd (Prod.mk.inj split).1.symm nonempty
  · rintro ⟨rfl, inside, outside⟩
    obtain ⟨start, after⟩ := (takeWhile_eq_and_dropWhile_eq_iff inside).mpr ⟨rfl, outside⟩
    have found : dropStart? ['/', '/'] ('/' :: '/' :: (authority ++ rest)) =
        some (authority ++ rest) := dropStart?_eq_some_iff.mpr rfl
    simp only [splitAuthority, found, start, after]

/-- The authority of an address is found, unless it is empty. -/
theorem originOf_eq_iff (nonempty : authority ≠ []) :
    originOf url = (secureScheme, authority) ↔
      ∃ rest, IsSecureAddress (significantChars url) authority rest := by
  rcases split : splitScheme (significantChars url) with ⟨scheme, located⟩
  rcases found : splitAuthority located with ⟨front, rest⟩
  simp only [originOf, split, found, Prod.mk.injEq]
  constructor
  · rintro ⟨secure, rfl⟩
    obtain ⟨_, parts⟩ := (splitScheme_eq_iff (ne_nil_of_lowercaseAscii secure)).mp split
    obtain ⟨rfl, inside, outside⟩ := (splitAuthority_eq_iff nonempty).mp found
    exact ⟨rest, ⟨scheme, secure, parts⟩, inside, outside⟩
  · rintro ⟨rest, ⟨scheme, secure, parts⟩, inside, outside⟩
    cases split.symm.trans ((splitScheme_eq_iff (ne_nil_of_lowercaseAscii secure)).mpr
      ⟨isScheme_of_lowercaseAscii secure, parts⟩)
    cases found.symm.trans ((splitAuthority_eq_iff nonempty).mpr ⟨rfl, inside, outside⟩)
    exact ⟨secure, rfl⟩

/-! ### User, host and port -/

/-- The user in front of a host: nothing, or a text and an at sign. -/
def IsUserPart (text : List Char) : Prop := text = [] ∨ ∃ user, text = user ++ ['@']

/-- The port after a host: nothing, or a colon and a text. -/
def IsPortPart (text : List Char) : Prop := text = [] ∨ ∃ port, text = ':' :: port

/-- A host with its port: the host as it is, or in brackets, of which the closing one may be
missing. -/
inductive NamedHost : (named host : List Char) → Prop
  | plain {host port : List Char} : ':' ∉ host → IsPortPart port → '[' ∉ host ++ port →
      NamedHost (host ++ port) host
  | bracketed {host port : List Char} : ']' ∉ host → IsPortPart port →
      NamedHost ('[' :: (host ++ ']' :: port)) host
  | unclosed {host : List Char} : ']' ∉ host → NamedHost ('[' :: host) host

/-- An authority names a host between a user, which ends at the last at sign, and a port. -/
def NamesHost (authority host : List Char) : Prop :=
  ∃ user named, IsUserPart user ∧ '@' ∉ named ∧ authority = user ++ named ∧ NamedHost named host

theorem hostAndPort_eq_iff :
    hostAndPort authority = named ↔
      '@' ∉ named ∧ ∃ user, IsUserPart user ∧ authority = user ++ named := by
  rw [hostAndPort, splitLast, List.reverse_eq_iff, takeWhile_ne_eq_iff, List.mem_reverse,
    List.reverse_inj]
  refine and_congr_right fun _ => ?_
  constructor
  · rintro (rfl | ⟨user, reversed⟩)
    · exact ⟨[], .inl rfl, rfl⟩
    · refine ⟨user.reverse ++ ['@'], .inr ⟨_, rfl⟩, ?_⟩
      rw [← List.reverse_reverse authority, reversed]
      simp only [List.reverse_append, List.reverse_cons, List.reverse_reverse]
  · rintro ⟨_, rfl | ⟨user, rfl⟩, rfl⟩
    · exact .inl rfl
    · refine .inr ⟨user.reverse, ?_⟩
      simp only [List.reverse_append, List.reverse_cons, List.reverse_nil, List.nil_append,
        List.singleton_append]

theorem namedHost_iff_of_plain (noOpening : '[' ∉ named) :
    NamedHost named host ↔ named.takeWhile (· ≠ ':') = host := by
  rw [takeWhile_ne_eq_iff]
  constructor
  · intro names
    cases names with
    | plain noColon isPort _ =>
        refine ⟨noColon, ?_⟩
        rcases isPort with rfl | ⟨port, rfl⟩
        · exact .inl (List.append_nil host)
        · exact .inr ⟨port, rfl⟩
    | bracketed _ _ => exact absurd List.mem_cons_self noOpening
    | unclosed _ => exact absurd List.mem_cons_self noOpening
  · rintro ⟨noColon, rfl | ⟨port, rfl⟩⟩
    · rw [← List.append_nil named] at noOpening
      have plain := NamedHost.plain noColon (.inl rfl) noOpening
      rwa [List.append_nil] at plain
    · exact .plain noColon (.inr ⟨port, rfl⟩) noOpening

theorem isBracketPlaced_iff_of_opening {bracketed : List Char} :
    isBracketPlaced ('[' :: bracketed) = true ↔
      IsPortPart ((bracketed.dropWhile (· ≠ ']')).drop 1) := by
  rw [isBracketPlaced]
  generalize (bracketed.dropWhile (· ≠ ']')).drop 1 = port
  cases port with
  | nil => exact iff_of_true rfl (.inl rfl)
  | cons char port => simp only [decide_eq_true_eq, IsPortPart, reduceCtorEq, List.cons.injEq,
      exists_and_left, exists_eq', and_true, false_or]

theorem namedHost_iff_of_opening {bracketed : List Char} :
    NamedHost ('[' :: bracketed) host ↔
      isBracketPlaced ('[' :: bracketed) = true ∧ bracketed.takeWhile (· ≠ ']') = host := by
  rw [isBracketPlaced_iff_of_opening, takeWhile_ne_eq_iff]
  constructor
  · intro names
    generalize whole : '[' :: bracketed = named at names
    cases names with
    | plain _ _ noOpening => exact absurd (whole ▸ List.mem_cons_self) noOpening
    | @bracketed _ port noClosing isPort =>
        cases whole
        rw [dropWhile_ne_append noClosing]
        exact ⟨isPort, noClosing, .inr ⟨port, rfl⟩⟩
    | unclosed noClosing =>
        cases whole
        rw [dropWhile_ne_of_absent noClosing]
        exact ⟨.inl rfl, noClosing, .inl rfl⟩
  · rintro ⟨isPort, noClosing, rfl | ⟨port, rfl⟩⟩
    · exact .unclosed noClosing
    · rw [dropWhile_ne_append noClosing] at isPort
      exact .bracketed noClosing isPort

theorem isBracketPlaced_iff_of_head (noOpening : named.head? ≠ some '[') :
    isBracketPlaced named = true ↔ '[' ∉ named := by
  unfold isBracketPlaced
  split
  · exact absurd rfl noOpening
  · rw [Bool.not_eq_true', List.contains_eq_mem, decide_eq_false_iff_not]

/-- The host of an authority is found when the brackets stand where they may. -/
theorem namedHost_iff :
    NamedHost (hostAndPort authority) host ↔
      isBracketPlaced (hostAndPort authority) = true ∧ hostText authority = host := by
  rw [hostText]
  generalize hostAndPort authority = named
  by_cases first : named.head? = some '['
  · obtain ⟨bracketed, rfl⟩ := List.head?_eq_some_iff.mp first
    exact namedHost_iff_of_opening
  · rw [isBracketPlaced_iff_of_head first]
    by_cases opening : '[' ∈ named
    · refine iff_of_false (fun names => ?_) fun both => both.1 opening
      cases names with
      | plain _ _ noOpening => exact noOpening opening
      | bracketed _ _ => exact first rfl
      | unclosed _ => exact first rfl
    · rw [namedHost_iff_of_plain opening, dropWhile_ne_of_absent opening]
      exact (and_iff_right opening).symm

theorem namesHost_iff :
    NamesHost authority host ↔
      isBracketPlaced (hostAndPort authority) = true ∧ hostText authority = host := by
  rw [← namedHost_iff]
  constructor
  · rintro ⟨user, named, isUser, noAt, parts, names⟩
    rwa [hostAndPort_eq_iff.mpr ⟨noAt, user, isUser, parts⟩]
  · intro names
    obtain ⟨noAt, user, isUser, parts⟩ := hostAndPort_eq_iff.mp (Eq.refl (hostAndPort authority))
    exact ⟨user, _, isUser, noAt, parts, names⟩

/-- A host that names the address of a future version: the letter v, a version in hexadecimal
digits, a point and something more. -/
def IsVersionedHost (host : List Char) : Prop :=
  ∃ version rest, host = 'v' :: (version ++ '.' :: rest) ∧ version ≠ [] ∧ rest ≠ [] ∧
    ∀ char ∈ version, isHexDigit char = true

theorem isVersionedHost_iff : isVersionedHost host = true ↔ IsVersionedHost host := by
  constructor
  · intro versioned
    unfold isVersionedHost at versioned
    split at versioned
    · next text =>
        dsimp only at versioned
        split at versioned
        · next rest after =>
            rw [Bool.and_eq_true, Bool.not_eq_true', Bool.not_eq_true', List.isEmpty_eq_false_iff,
              List.isEmpty_eq_false_iff] at versioned
            refine ⟨text.takeWhile isHexDigit, rest, ?_, versioned.1, versioned.2,
              fun _ inVersion => List.mem_takeWhile_imp inVersion⟩
            rw [← after, List.takeWhile_append_dropWhile]
        · cases versioned
    · cases versioned
  · rintro ⟨version, rest, rfl, hasVersion, hasRest, digits⟩
    have stops : ∀ char ∈ ('.' :: rest).head?, isHexDigit char = false :=
      fun char first => Option.some.inj first ▸ by decide
    obtain ⟨start, after⟩ := (takeWhile_eq_and_dropWhile_eq_iff digits).mpr ⟨rfl, stops⟩
    simp only [isVersionedHost, start, after]
    rw [List.isEmpty_eq_false_iff.mpr hasVersion, List.isEmpty_eq_false_iff.mpr hasRest]
    rfl

/-- An authority can be read when it has no brackets or both and a versioned host, and none of the
characters that delimiters are the compatibility forms of. -/
structure IsReadable (authority host : List Char) : Prop where
  brackets : '[' ∈ authority ∨ ']' ∈ authority →
    '[' ∈ authority ∧ ']' ∈ authority ∧ IsVersionedHost host
  delimiters : ∀ char ∈ authority, char.toNat ∉ delimiterLookalikes

theorem isReadableAuthority_iff :
    isReadableAuthority authority = true ↔
      isBracketPlaced (hostAndPort authority) = true ∧
        IsReadable authority (hostText authority) := by
  simp only [isReadableAuthority, areBracketsGood, hasBracket, Bool.and_eq_true, Bool.or_eq_true,
    Bool.not_eq_true', Bool.or_eq_false_iff, List.any_eq_false, List.contains_eq_mem,
    decide_eq_true_eq, decide_eq_false_iff_not, isVersionedHost_iff]
  constructor
  · rintro ⟨⟨noOpening, noClosing⟩ | ⟨⟨⟨opening, closing⟩, placed⟩, versioned⟩, delimiters⟩
    · -- Without brackets in the authority there are none around the host.
      refine ⟨?_, fun either => absurd either (not_or.mpr ⟨noOpening, noClosing⟩), delimiters⟩
      obtain ⟨_, user, _, parts⟩ := hostAndPort_eq_iff.mp (Eq.refl (hostAndPort authority))
      have absent : '[' ∉ hostAndPort authority := fun within =>
        noOpening (parts ▸ List.mem_append_right user within)
      exact (isBracketPlaced_iff_of_head fun first => absent (List.mem_of_head? first)).mpr absent
    · exact ⟨placed, fun _ => ⟨opening, closing, versioned⟩, delimiters⟩
  · rintro ⟨placed, brackets, delimiters⟩
    by_cases either : '[' ∈ authority ∨ ']' ∈ authority
    · obtain ⟨opening, closing, versioned⟩ := brackets either
      exact ⟨.inr ⟨⟨⟨opening, closing⟩, placed⟩, versioned⟩, delimiters⟩
    · exact ⟨.inl (not_or.mp either), delimiters⟩

theorem hostname?_eq_some_iff :
    hostname? authority = some name ↔
      ∃ host, NamesHost authority host ∧ IsReadable authority host ∧ lowercase host = name := by
  simp only [hostname?, namesHost_iff, Option.ite_none_right_eq_some, isReadableAuthority_iff]
  constructor
  · rintro ⟨⟨placed, readable⟩, same⟩
    exact ⟨_, ⟨placed, rfl⟩, readable, Option.some.inj same⟩
  · rintro ⟨_, ⟨placed, rfl⟩, readable, same⟩
    exact ⟨⟨placed, readable⟩, congrArg some same⟩

/-! ### Slashes at the end -/

/-- The authority does not end with a slash, so slashes at the end of an address lie in its rest. -/
theorem IsSecureAddress.of_append_slashes
    (isAddress : IsSecureAddress (text ++ slashes) authority rest)
    (areSlashes : ∀ char ∈ slashes, char = '/') (nonempty : authority ≠ []) :
    ∃ trimmed, IsSecureAddress text authority trimmed := by
  obtain ⟨⟨scheme, secure, parts⟩, inside, outside⟩ := isAddress
  obtain ⟨start, last, rfl⟩ := (List.eq_nil_or_concat' authority).resolve_left nonempty
  have front (after : List Char) : scheme ++ ':' :: '/' :: '/' :: (start ++ [last] ++ after) =
      scheme ++ ':' :: '/' :: '/' :: start ++ [last] ++ after := by
    simp only [List.append_assoc, List.cons_append]
  rw [front] at parts
  rcases List.append_eq_append_iff.mp parts with ⟨between, split, rfl⟩ | ⟨trimmed, rfl, rfl⟩
  · rcases List.eq_nil_or_concat' between with rfl | ⟨others, slash, rfl⟩
    · refine ⟨[], ⟨scheme, secure, ?_⟩, inside, nofun⟩
      rw [front, List.append_nil, split, List.append_nil]
    · -- The slashes would begin inside the authority, and so its last character would be one.
      rw [← List.append_assoc] at split
      obtain ⟨_, same⟩ := List.append_inj' split rfl
      cases same
      have isSlash := areSlashes last (by simp)
      cases isSlash
      exact absurd (inside '/' (by simp)) (by decide)
  · refine ⟨trimmed, ⟨scheme, secure, (front trimmed).symm⟩, inside, ?_⟩
    cases trimmed with
    | nil => nofun
    | cons char trimmed => exact outside

theorem exists_eq_storedUrl_append (url : List Char) :
    ∃ slashes, url = storedUrl url ++ slashes ∧ ∀ char ∈ slashes, char = '/' := by
  refine ⟨url.rtakeWhile (· = '/'), List.rdropWhile_append_rtakeWhile.symm, ?_⟩
  intro char inSlashes
  simpa using List.mem_rtakeWhile_imp inSlashes

/-- A slash always counts, also at the start of an address. -/
theorem significantChars_append_slashes (areSlashes : ∀ char ∈ slashes, char = '/') :
    significantChars (text ++ slashes) = significantChars text ++ slashes := by
  have front : (text ++ slashes).dropWhile (fun char => decide (char.toNat ≤ 0x20)) =
      text.dropWhile (fun char => decide (char.toNat ≤ 0x20)) ++ slashes := by
    have late : slashes.dropWhile (fun char => decide (char.toNat ≤ 0x20)) = slashes := by
      cases slashes with
      | nil => rfl
      | cons char slashes =>
          cases areSlashes char List.mem_cons_self
          rfl
    rw [List.dropWhile_append, late]
    split
    · next nothing => rw [List.isEmpty_iff.mp nothing, List.nil_append]
    · rfl
  have kept : slashes.filter (!isIgnoredChar ·) = slashes := by
    refine List.filter_eq_self.mpr fun char inSlashes => ?_
    cases areSlashes char inSlashes
    rfl
  rw [significantChars, front, List.filter_append, kept, significantChars]

theorem storedUrl_storedUrl (url : List Char) : storedUrl (storedUrl url) = storedUrl url :=
  List.rdropWhile_idempotent _ url

/-- Slashes at the end of an address do not belong to its authority. -/
theorem originOf_storedUrl (nonempty : authority ≠ [])
    (origin : originOf url = (secureScheme, authority)) :
    originOf (storedUrl url) = (secureScheme, authority) := by
  obtain ⟨rest, isAddress⟩ := (originOf_eq_iff nonempty).mp origin
  obtain ⟨slashes, parts, areSlashes⟩ := exists_eq_storedUrl_append url
  rw [parts, significantChars_append_slashes areSlashes] at isAddress
  obtain ⟨trimmed, isTrimmed⟩ := isAddress.of_append_slashes areSlashes nonempty
  exact (originOf_eq_iff nonempty).mpr ⟨trimmed, isTrimmed⟩

end ScriptGate.Settings
