import ScriptGate.Proofs.Field
import ScriptGate.Proofs.Settings.Address
import ScriptGate.Proofs.Settings.Hostname
import ScriptGate.Proofs.Text.Lowercase
import ScriptGate.Settings.Instance

/-! # Which addresses of instances are accepted, and what is stored

An address is accepted exactly when it is put together as the grammar of secure addresses says and
its host, in lower case, is a host name (`isInstanceUrl_grammar`). What is stored is accepted again
and stored as it is. Read without the preparation that acceptance makes, a stored address has the
accepted host exactly when nothing was ignored in the given one and no Kelvin sign stands in its
host (`Instance.stored_url_literal_iff`). -/

namespace ScriptGate.Settings

open Text

variable {url authority rest host name : List Char}

/-! ### Acceptance -/

theorem isInstanceUrl_iff :
    isInstanceUrl url = true ↔
      (originOf url).1 = secureScheme ∧
        ∃ name, hostname? (originOf url).2 = some name ∧ IsHostname name := by
  simp only [isInstanceUrl, Bool.and_eq_true, decide_eq_true_eq, Option.any_eq_true, isHostname_iff]

theorem IsHostname.nonempty (isHostname : IsHostname name) : name ≠ [] := by
  rintro rfl
  exact absurd (isHostname_iff.mpr isHostname) (by decide)

/-- The host is a part of its authority. -/
theorem NamesHost.subset (names : NamesHost authority host) : host ⊆ authority := by
  obtain ⟨user, named, _, _, rfl, named⟩ := names
  refine List.subset_append_of_subset_right user ?_
  cases named with
  | plain _ _ _ => exact List.subset_append_left _ _
  | bracketed _ _ => exact List.subset_cons_of_subset _ (List.subset_append_left _ _)
  | unclosed _ => exact List.subset_cons_self _ _

theorem IsHostname.authority_nonempty (isHostname : IsHostname name)
    (found : hostname? authority = some name) : authority ≠ [] := by
  rintro rfl
  cases found
  exact isHostname.nonempty rfl

theorem isInstanceUrl_iff_address :
    isInstanceUrl url = true ↔
      ∃ authority rest host, IsSecureAddress (significantChars url) authority rest ∧
        NamesHost authority host ∧ IsReadable authority host ∧ IsHostname (lowercase host) := by
  rw [isInstanceUrl_iff]
  constructor
  · rintro ⟨secure, name, found, isHostname⟩
    obtain ⟨rest, isAddress⟩ :=
      (originOf_eq_iff (isHostname.authority_nonempty found)).mp (Prod.ext secure rfl)
    obtain ⟨host, names, readable, rfl⟩ := hostname?_eq_some_iff.mp found
    exact ⟨_, rest, host, isAddress, names, readable, isHostname⟩
  · rintro ⟨authority, rest, host, isAddress, names, readable, isHostname⟩
    have found := hostname?_eq_some_iff.mpr ⟨host, names, readable, rfl⟩
    have origin := (originOf_eq_iff (isHostname.authority_nonempty found)).mpr ⟨rest, isAddress⟩
    rw [origin]
    exact ⟨rfl, _, found, isHostname⟩

theorem lineFeed_not_mem_significantChars (url : List Char) : '\n' ∉ significantChars url := by
  intro feed
  exact absurd (List.mem_filter.mp feed).2 (by decide)

/-- No host name of an address has a line feed, which the end of a pattern would pass over. -/
theorem lineFeed_not_mem_hostname (secure : (originOf url).1 = secureScheme)
    (found : hostname? (originOf url).2 = some name) : '\n' ∉ name := by
  obtain ⟨host, names, _, rfl⟩ := hostname?_eq_some_iff.mp found
  intro feed
  have inAuthority := names.subset (mem_of_mem_lowercase (by decide) feed)
  obtain ⟨rest, ⟨scheme, _, parts⟩, _⟩ :=
    (originOf_eq_iff (List.ne_nil_of_mem inAuthority)).mp (Prod.ext secure rfl)
  refine lineFeed_not_mem_significantChars url (parts ▸ ?_)
  simp [inAuthority]

/-! ### What is stored -/

theorem checkUrl_eq_ok_iff {field : String} {value : Json} {stored : String} :
    checkUrl field value = .ok stored ↔
      ∃ given, value = .str given ∧ isInstanceUrl given.toList = true ∧
        stored.toList = storedUrl given.toList := by
  constructor
  · intro checked
    cases value with
    | str given =>
        rw [checkUrl] at checked
        split at checked
        · next accepted =>
            cases checked
            exact ⟨given, rfl, accepted, String.toList_ofList⟩
        · cases checked
    | _ => cases checked
  · rintro ⟨given, rfl, accepted, same⟩
    rw [checkUrl, if_pos accepted, ← same, String.ofList_toList]

theorem originOf_storedUrl_of_accepted (accepted : isInstanceUrl url = true) :
    originOf (storedUrl url) = originOf url := by
  obtain ⟨secure, name, found, isHostname⟩ := isInstanceUrl_iff.mp accepted
  have origin : originOf url = (secureScheme, (originOf url).2) := Prod.ext secure rfl
  exact (originOf_storedUrl (isHostname.authority_nonempty found) origin).trans origin.symm

theorem isInstanceUrl_storedUrl (accepted : isInstanceUrl url = true) :
    isInstanceUrl (storedUrl url) = true := by
  rw [isInstanceUrl_iff, originOf_storedUrl_of_accepted accepted]
  exact isInstanceUrl_iff.mp accepted

/-- **Acceptance is a grammar, and storing keeps it.** A text is accepted as an address exactly
when, without the characters that are ignored, it is put together from the secure scheme, an
authority and a rest, and the authority can be read and names a host whose lower-case form is a host
name; in other words, when its host name is one that the pattern matches. What is stored of an
accepted address has the same host name, is accepted again and is stored as it is. -/
theorem isInstanceUrl_grammar (url : String) :
    (isInstanceUrl url.toList = true ↔
      ∃ authority rest host, IsSecureAddress (significantChars url.toList) authority rest ∧
        NamesHost authority host ∧ IsReadable authority host ∧ IsHostname (lowercase host)) ∧
    (isInstanceUrl url.toList = true ↔
      (originOf url.toList).1 = secureScheme ∧
        ∃ name, hostname? (originOf url.toList).2 = some name ∧ MatchesHostname name) ∧
    (isInstanceUrl url.toList = true →
      ∃ stored name, String.toList stored = storedUrl url.toList ∧
        isInstanceUrl stored.toList = true ∧
        hostname? (originOf url.toList).2 = some name ∧
        hostname? (originOf stored.toList).2 = some name ∧
        ∀ field, checkUrl field (.str url) = .ok stored ∧
          checkUrl field (.str stored) = .ok stored) := by
  refine ⟨isInstanceUrl_iff_address, ?_, fun accepted => ?_⟩
  · rw [isInstanceUrl_iff]
    refine and_congr_right fun secure => exists_congr fun name => and_congr_right fun found => ?_
    exact (matchesHostname_iff (lineFeed_not_mem_hostname secure found)).symm
  · obtain ⟨stored, same⟩ : ∃ stored : String, stored.toList = storedUrl url.toList :=
      ⟨String.ofList _, String.toList_ofList⟩
    have again : isInstanceUrl stored.toList = true := by
      rw [same]
      exact isInstanceUrl_storedUrl accepted
    have unchanged : stored.toList = storedUrl stored.toList := by
      rw [same, storedUrl_storedUrl]
    obtain ⟨_, name, found, _⟩ := isInstanceUrl_iff.mp accepted
    have foundAgain : hostname? (originOf stored.toList).2 = some name := by
      rw [same, originOf_storedUrl_of_accepted accepted, found]
    exact ⟨stored, name, same, again, found, foundAgain, fun field =>
      ⟨checkUrl_eq_ok_iff.mpr ⟨url, rfl, accepted, same⟩,
        checkUrl_eq_ok_iff.mpr ⟨stored, rfl, again, unchanged⟩⟩⟩

end ScriptGate.Settings
