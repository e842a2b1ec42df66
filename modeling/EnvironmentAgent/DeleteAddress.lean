import EnvironmentAgent.ProviderValidation
import EnvironmentAgent.UrlPaths

/-! # The address of an external delete

`deleteExternal` joins the provider's endpoint with the escaped resource id. -/
namespace DeleteAddress

open ProviderValidation UrlPaths

/-- `net/url` accepts a path whose escapes are complete. -/
def withPaths (syn : URLSyntax) : URLSyntax := { syn with setPath := fun p => (unescape p).isSome }

def endpointPath (endpoint : String) : List Char :=
  match getScheme (cut '#' endpoint.toList).1 with
  | none => []
  | some (_, rest) => ((cut '?' rest).1.drop 2).dropWhile (· ≠ '/')

def bytesOf (s : String) : List UInt8 := s.toByteArray.data.toList

def pathEscape (s : String) : List Char := escape segmentByte (bytesOf s)

/-- The path on the wire; `none` is the error of `url.JoinPath`. -/
def deletePath (endpoint resourceID : String) : Option (List Char) := do
  let base ← escapedPath (endpointPath endpoint)
  let joined ← escapedPath (joinPath base (pathEscape resourceID))
  -- After a host, `String` writes a slash in front of a path that does not start with one.
  let written := if joined ≠ [] ∧ joined.head? ≠ some '/' then '/' :: joined else joined
  -- `http.NewRequestWithContext` parses the text again, and an empty path is sent as the root.
  let sent ← escapedPath written
  return if sent = [] then ['/'] else sent

def collectionPath (endpoint : String) : List Char :=
  render (cleanSegments ((escapedPath (endpointPath endpoint)).getD []))

/-- The request goes to the collection's path with one more segment, which decodes to the id. -/
def AddressesOwn (endpoint resourceID : String) : Prop :=
  ∃ seg, deletePath endpoint resourceID = some (collectionPath endpoint ++ '/' :: seg) ∧
    '/' ∉ seg ∧ unescape seg = some (bytesOf resourceID)

theorem bytesOf_injective : Function.Injective bytesOf := by
  intro s t h
  apply String.toByteArray_inj.mp
  apply ByteArray.ext
  exact Array.toList_inj.mp h

theorem dropWhile_root (s : List Char) :
    s.dropWhile (· ≠ '/') = [] ∨ ∃ rest, s.dropWhile (· ≠ '/') = '/' :: rest := by
  induction s with
  | nil => exact Or.inl rfl
  | cons c s ih =>
    by_cases hc : c = '/'
    · exact Or.inr ⟨s, by simp [hc]⟩
    · simpa [hc] using ih

theorem endpointPath_root (endpoint : String) :
    endpointPath endpoint = [] ∨ ∃ rest, endpointPath endpoint = '/' :: rest := by
  rw [endpointPath]
  split
  · exact Or.inl rfl
  · exact dropWhile_root _

theorem setPath_of_parseHierarchy {syn : URLSyntax} {scheme rest rawQuery : List Char} {u : URL}
    (h : parseHierarchy syn scheme rest rawQuery = some u) (hhost : u.host ≠ []) :
    syn.setPath ((rest.drop 2).dropWhile (· ≠ '/')) = true := by
  rw [parseHierarchy] at h
  split at h
  · dsimp only at h
    split at h
    · cases h
    · split at h
      case isTrue hpath => exact hpath
      case isFalse => cases h
  · split at h
    · cases h
      exact absurd rfl hhost
    · cases h

theorem setPath_of_parseURL {syn : URLSyntax} {rawURL : List Char} {u : URL}
    (h : parseURL syn rawURL = some u) (hhost : u.host ≠ []) :
    ∃ scheme rest, getScheme rawURL = some (scheme, rest) ∧
      syn.setPath (((cut '?' rest).1.drop 2).dropWhile (· ≠ '/')) = true := by
  rw [parseURL] at h
  split at h
  · cases h
  split at h
  · cases h
    exact absurd rfl hhost
  split at h
  · cases h
  case h_2 scheme rest hscheme =>
    dsimp only at h
    split at h
    · cases h
      exact absurd rfl hhost
    split at h
    · cases h
    · exact ⟨scheme, rest, hscheme, setPath_of_parseHierarchy h hhost⟩

theorem host_of_urlParse {syn : URLSyntax} {endpoint : String} {u : URL}
    (h : urlParse syn endpoint = some u) :
    ∃ v, parseURL syn (cut '#' endpoint.toList).1 = some v ∧ v.host = u.host := by
  rw [urlParse] at h
  dsimp only at h
  split at h
  · cases h
  case h_2 v hv =>
    refine ⟨v, hv, ?_⟩
    split at h
    · cases h
      rfl
    split at h
    · cases h
      rfl
    · cases h

theorem complete_of_validateEndpoint {syn : URLSyntax} {endpoint : String}
    (h : validateEndpoint (withPaths syn) endpoint = none) :
    (unescape (endpointPath endpoint)).isSome := by
  rw [validateEndpoint] at h
  split at h
  · cases h
  case h_2 u hu =>
    obtain ⟨v, hv, hhost⟩ := host_of_urlParse hu
    have hne : v.host ≠ [] := by
      intro hnil
      rw [hhost] at hnil
      rw [if_pos hnil] at h
      split at h <;> cases h
    obtain ⟨scheme, rest, hscheme, hpath⟩ := setPath_of_parseURL hv hne
    rw [endpointPath, hscheme]
    exact hpath

theorem basePath_of_validateEndpoint {syn : URLSyntax} {endpoint : String}
    (h : validateEndpoint (withPaths syn) endpoint = none) :
    ∃ base, escapedPath (endpointPath endpoint) = some base ∧ WellEncoded base ∧
      (base = [] ∨ ∃ rest, base = '/' :: rest) := by
  have hcomplete := complete_of_validateEndpoint h
  obtain ⟨base, hbase⟩ := Option.isSome_iff_exists.mp (escapedPath_isSome hcomplete)
  refine ⟨base, hbase, .of_escapedPath hbase, ?_⟩
  rcases endpointPath_root endpoint with hnil | ⟨rest, hrest⟩
  · rw [hnil] at hbase
    exact Or.inl (Option.some.inj hbase).symm
  · rw [hrest] at hbase
    exact Or.inr (escapedPath_rooted hbase)

variable {segs : List (List Char)}

section Joined

variable {endpoint id : String} {base : List Char}

theorem slash_notMem_pathEscape (id : String) : '/' ∉ pathEscape id := slash_notMem_escape _

theorem wellEncoded_pathEscape (id : String) : WellEncoded (pathEscape id) :=
  wellEncoded_escape segmentByte_le _

theorem unescape_pathEscape (id : String) : unescape (pathEscape id) = some (bytesOf id) :=
  unescape_escape segmentByte_le _

theorem pathEscape_injective : Function.Injective pathEscape :=
  (escape_injective segmentByte_le).comp bytesOf_injective

theorem pathEscape_eq_nil : pathEscape id = [] ↔ id = "" :=
  pathEscape_injective.eq_iff (b := "")

theorem pathEscape_eq_dot : pathEscape id = ['.'] ↔ id = "." :=
  pathEscape_injective.eq_iff (b := ".")

theorem pathEscape_eq_dots : pathEscape id = ['.', '.'] ↔ id = ".." :=
  pathEscape_injective.eq_iff (b := "..")

theorem wellEncoded_pushSegment (hbase : WellEncoded base) :
    ∀ s ∈ pushSegment (cleanSegments base) (pathEscape id), WellEncoded s := by
  intro s hs
  rcases pushSegment_subset _ _ s hs with hold | rfl
  · exact hbase.segments s (cleanSegments_subset base s hold)
  · exact wellEncoded_pathEscape id

theorem escapedPath_renderRooted (h : ∀ s ∈ segs, WellEncoded s) :
    escapedPath (renderRooted segs) = some (renderRooted segs) := by
  obtain ⟨rest, hrest⟩ := renderRooted_cons segs
  apply (wellEncoded_renderRooted h).escapedPath_eq
  rw [hrest]
  exact unescape_rooted rest

theorem deletePath_of_written {joined : List Char}
    (hbase : escapedPath (endpointPath endpoint) = some base)
    (hjoined : escapedPath (joinPath base (pathEscape id)) = some joined)
    (hwritten : (if joined ≠ [] ∧ joined.head? ≠ some '/' then '/' :: joined else joined) =
      renderRooted segs) (hsegs : ∀ s ∈ segs, WellEncoded s) :
    deletePath endpoint id = some (renderRooted segs) := by
  obtain ⟨rest, hrest⟩ := renderRooted_cons segs
  have hsent := escapedPath_renderRooted hsegs
  simp only [deletePath, hbase, hjoined, Option.bind_eq_bind, Option.bind_some, hwritten, hsent]
  simp [hrest]

theorem deletePath_rooted {rest : List Char}
    (hbase : escapedPath (endpointPath endpoint) = some ('/' :: rest)) :
    deletePath endpoint id =
      some (renderRooted (pushSegment (cleanSegments ('/' :: rest)) (pathEscape id))) := by
  have hsegs : ∀ s ∈ pushSegment (cleanSegments ('/' :: rest)) (pathEscape id), WellEncoded s :=
    wellEncoded_pushSegment (.of_escapedPath hbase)
  have hjoined := escapedPath_renderRooted hsegs
  rw [← joinPath_rooted rest (slash_notMem_pathEscape id)] at hjoined
  apply deletePath_of_written hbase hjoined _ hsegs
  rw [joinPath_rooted rest (slash_notMem_pathEscape id)]
  obtain ⟨tail, htail⟩ :=
    renderRooted_cons (pushSegment (cleanSegments ('/' :: rest)) (pathEscape id))
  simp [htail]

theorem pushSegment_of_name (stack : List (List Char)) (h₀ : id ≠ "") (h₁ : id ≠ ".")
    (h₂ : id ≠ "..") : pushSegment stack (pathEscape id) = stack ++ [pathEscape id] := by
  simp [pushSegment, pathEscape_eq_nil, pathEscape_eq_dot, pathEscape_eq_dots, h₀, h₁, h₂]

theorem pushSegment_of_dots (stack : List (List Char)) (h : id = "." ∨ id = "..") :
    pushSegment stack (pathEscape id) = stack ∨
      pushSegment stack (pathEscape id) = stack.dropLast := by
  rcases h with rfl | rfl
  · exact Or.inl rfl
  · exact Or.inr rfl

theorem deletePath_nil_dots (hbase : escapedPath (endpointPath endpoint) = some [])
    (hid : id = "." ∨ id = "..") : deletePath endpoint id = some ['/'] := by
  have hjoined : joinPath [] (pathEscape id) = [] := by
    rcases hid with rfl | rfl
    · rfl
    · rfl
  have hempty : escapedPath [] = some [] := rfl
  simp [deletePath, hbase, hjoined, hempty]

theorem deletePath_nil_name (hbase : escapedPath (endpointPath endpoint) = some [])
    (h₀ : id ≠ "") (h₁ : id ≠ ".") (h₂ : id ≠ "..") {joined : List Char}
    (hjoined : escapedPath (pathEscape id) = some joined) (hw : WellEncoded joined)
    (hne : joined ≠ []) (hslash : '/' ∉ joined) :
    deletePath endpoint id = some ('/' :: joined) := by
  have hjoin : joinPath [] (pathEscape id) = pathEscape id := by
    rw [joinPath_nil (slash_notMem_pathEscape id), pushSegment_of_name [] h₀ h₁ h₂]
    simp [renderRooted, render]
  have hrender : renderRooted [joined] = '/' :: joined := by simp [renderRooted, render]
  have hhead : joined.head? ≠ some '/' := fun hh => hslash (List.mem_of_mem_head? hh)
  rw [← hrender]
  apply deletePath_of_written hbase (hjoin ▸ hjoined)
  · rw [if_pos ⟨hne, hhead⟩, hrender]
  · simpa using hw

theorem escapedPath_star : escapedPath (pathEscape "*") = some ['*'] := by
  decide

theorem addressesOwn_nil (hbase : escapedPath (endpointPath endpoint) = some [])
    (h₀ : id ≠ "") (h₁ : id ≠ ".") (h₂ : id ≠ "..") :
    ∃ seg, deletePath endpoint id = some ('/' :: seg) ∧ '/' ∉ seg ∧
      unescape seg = some (bytesOf id) := by
  by_cases hstar : id = "*"
  · subst hstar
    refine ⟨['*'], ?_, by decide, by decide⟩
    exact deletePath_nil_name hbase h₀ h₁ h₂ escapedPath_star (.of_escapedPath escapedPath_star)
      (by decide) (by decide)
  · have hdecoded := unescape_pathEscape id
    have hw := wellEncoded_pathEscape id
    have hplain : escapedPath (pathEscape id) = some (pathEscape id) := by
      apply hw.escapedPath_eq
      rw [hdecoded]
      intro h
      exact hstar (bytesOf_injective (Option.some.inj h))
    have hne : pathEscape id ≠ [] := fun h => h₀ (pathEscape_eq_nil.mp h)
    exact ⟨pathEscape id, deletePath_nil_name hbase h₀ h₁ h₂ hplain hw hne
      (slash_notMem_pathEscape id), slash_notMem_pathEscape id, hdecoded⟩

end Joined

section Addresses

variable {syn : URLSyntax} {endpoint id : String}

theorem addressesOwn_of_name (h : validateEndpoint (withPaths syn) endpoint = none)
    (h₀ : id ≠ "") (h₁ : id ≠ ".") (h₂ : id ≠ "..") : AddressesOwn endpoint id := by
  obtain ⟨base, hbase, _, hroot⟩ := basePath_of_validateEndpoint h
  rw [AddressesOwn, collectionPath, hbase]
  rcases hroot with rfl | ⟨rest, rfl⟩
  · exact addressesOwn_nil hbase h₀ h₁ h₂
  · refine ⟨pathEscape id, ?_, slash_notMem_pathEscape id, unescape_pathEscape id⟩
    rw [deletePath_rooted hbase, pushSegment_of_name _ h₀ h₁ h₂, renderRooted,
      if_neg (by simp), render_append]
    rfl

theorem deletePath_of_dots (h : validateEndpoint (withPaths syn) endpoint = none)
    (hid : id = "." ∨ id = "..") : ∃ path, deletePath endpoint id = some path ∧
      (path = ['/'] ∨ path.length ≤ (collectionPath endpoint).length) := by
  obtain ⟨base, hbase, _, hroot⟩ := basePath_of_validateEndpoint h
  rcases hroot with rfl | ⟨rest, rfl⟩
  · exact ⟨['/'], deletePath_nil_dots hbase hid, Or.inl rfl⟩
  refine ⟨_, deletePath_rooted hbase, ?_⟩
  rw [collectionPath, hbase, renderRooted]
  split
  · exact Or.inl rfl
  right
  rcases pushSegment_of_dots (cleanSegments ('/' :: rest)) hid with hpush | hpush
  · rw [hpush]
    exact Nat.le_refl _
  · rw [hpush]
    exact length_render_dropLast _

theorem deletePath_of_dots_ne (h : validateEndpoint (withPaths syn) endpoint = none)
    (hid : id = "." ∨ id = "..") {seg : List Char} (hseg : seg ≠ []) :
    deletePath endpoint id ≠ some (collectionPath endpoint ++ '/' :: seg) := by
  intro heq
  obtain ⟨path, hpath, hshort⟩ := deletePath_of_dots h hid
  rw [hpath] at heq
  have hlen := congrArg List.length (Option.some.inj heq)
  have hpos := List.length_pos_of_ne_nil hseg
  rw [List.length_append, List.length_cons] at hlen
  rcases hshort with hroot | hshort
  · rw [hroot, List.length_singleton] at hlen
    omega
  · omega

theorem AddressesOwn.exists_seg (h : AddressesOwn endpoint id) (h₀ : id ≠ "") :
    ∃ seg, seg ≠ [] ∧ deletePath endpoint id = some (collectionPath endpoint ++ '/' :: seg) ∧
      unescape seg = some (bytesOf id) := by
  obtain ⟨seg, hpath, _, hdecoded⟩ := h
  refine ⟨seg, ?_, hpath, hdecoded⟩
  intro hnil
  rw [hnil] at hdecoded
  exact h₀ (bytesOf_injective (Option.some.inj hdecoded).symm)

theorem addressesOwn_iff (h : validateEndpoint (withPaths syn) endpoint = none) (h₀ : id ≠ "") :
    AddressesOwn endpoint id ↔ id ≠ "." ∧ id ≠ ".." := by
  constructor
  · intro hown
    obtain ⟨seg, hseg, hpath, _⟩ := hown.exists_seg h₀
    constructor
    · intro hid
      exact deletePath_of_dots_ne h (Or.inl hid) hseg hpath
    · intro hid
      exact deletePath_of_dots_ne h (Or.inr hid) hseg hpath
  · intro hid
    exact addressesOwn_of_name h h₀ hid.1 hid.2

theorem delete_addresses_own (h : validateEndpoint (withPaths syn) endpoint = none) :
    (∀ id, id ≠ "" → (AddressesOwn endpoint id ↔ id ≠ "." ∧ id ≠ "..")) ∧
    ∀ id id', id ≠ "" → id' ≠ "" → AddressesOwn endpoint id →
      deletePath endpoint id = deletePath endpoint id' → id = id' := by
  constructor
  · intro id h₀
    exact addressesOwn_iff h h₀
  · intro id id' h₀ h₀' hown heq
    obtain ⟨seg, hseg, hpath, hdecoded⟩ := hown.exists_seg h₀
    rw [hpath] at heq
    have hown' : AddressesOwn endpoint id' := by
      apply (addressesOwn_iff h h₀').mpr
      constructor
      · intro hid
        exact deletePath_of_dots_ne h (Or.inl hid) hseg heq.symm
      · intro hid
        exact deletePath_of_dots_ne h (Or.inr hid) hseg heq.symm
    obtain ⟨seg', _, hpath', hdecoded'⟩ := hown'.exists_seg h₀'
    rw [hpath'] at heq
    have hsame : seg = seg' := by simpa using heq
    rw [hsame, hdecoded'] at hdecoded
    exact (bytesOf_injective (Option.some.inj hdecoded)).symm

end Addresses

def plainURLs : URLSyntax := ⟨fun _ authority => some authority, fun _ => true, fun _ => true⟩

theorem delete_addresses_own_vm :
    validateEndpoint (withPaths plainURLs) "http://sp/api/vms/" = none ∧
    AddressesOwn "http://sp/api/vms/" "a/b c" ∧
    deletePath "http://sp/api/vms/" "a/b c" = some "/api/vms/a%2Fb%20c".toList := by
  have hvalid : validateEndpoint (withPaths plainURLs) "http://sp/api/vms/" = none := by
    decide +kernel
  have hown := ((delete_addresses_own hvalid).1 "a/b c" (by decide)).mpr ⟨by decide, by decide⟩
  exact ⟨hvalid, hown, by decide +kernel⟩

theorem dots_address_collection :
    validateEndpoint (withPaths plainURLs) "http://sp/api/vms" = none ∧
    ¬ AddressesOwn "http://sp/api/vms" "." ∧ ¬ AddressesOwn "http://sp/api/vms" ".." ∧
    deletePath "http://sp/api/vms" "." = some "/api/vms".toList ∧
    deletePath "http://sp/api/vms" ".." = some "/api".toList ∧
    deletePath "http://sp" "." = deletePath "http://sp" ".." := by
  have hvalid : validateEndpoint (withPaths plainURLs) "http://sp/api/vms" = none := by
    decide +kernel
  refine ⟨hvalid, ?_, ?_, by decide +kernel⟩
  · intro hown
    exact ((addressesOwn_iff hvalid (by decide)).mp hown).1 rfl
  · intro hown
    exact ((addressesOwn_iff hvalid (by decide)).mp hown).2 rfl

end DeleteAddress
