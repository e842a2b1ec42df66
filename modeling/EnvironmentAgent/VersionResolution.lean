import EnvironmentAgent.EmbeddedHandlers

/-! # Resolving a Kubernetes version

The resolver of `acmcluster/version` goes through its matrix in any order, commits to the first
OpenShift version it meets, and then looks for an image of that version. -/
namespace VersionResolution

open AtomicPrograms SequentialPrograms ObjectStore EmbeddedHandlers

structure CompatibilityMatrix where
  entries : List (String × String)
  distinct : (entries.map Prod.fst).Nodup

def resolve (order : List (String × String)) (images : List String) (k8sVersion : String) :
    Except DomainError String :=
  match k8sToOCP order k8sVersion with
  | .error e => .error e
  | .ok ocpVersion =>
    match images.find? fun image => image ≠ "" && extractOCPVersion image == ocpVersion with
    | some image => .ok image
    | none =>
      .error ⟨.unprocessableEntity, "no ClusterImageSet found for version " ++ k8sVersion⟩

def releaseImageToK8sVersion (releaseImage : String) (matrix : CompatibilityMatrix) : String :=
  let ocpMinor := extractOCPVersion releaseImage
  if ocpMinor = "" then "" else (matrix.entries.lookup ocpMinor).getD ""

variable {ocpVersion : String}

section

variable {order : List (String × String)} {images : List String} {k8sVersion image : String}

theorem k8sToOCP_eq_ok (h : k8sToOCP order k8sVersion = .ok ocpVersion) :
    (ocpVersion, k8sVersion) ∈ order := by
  unfold k8sToOCP at h
  split at h
  · rename_i entry hfind
    cases h
    have hvalue := List.find?_some hfind
    rw [beq_iff_eq] at hvalue
    rw [← hvalue]
    exact List.mem_of_find?_eq_some hfind
  · cases h

theorem k8sToOCP_isOk (h : (ocpVersion, k8sVersion) ∈ order) :
    ∃ o, k8sToOCP order k8sVersion = .ok o := by
  unfold k8sToOCP
  cases hfind : order.find? (·.2 == k8sVersion) with
  | some entry => exact ⟨entry.1, rfl⟩
  | none =>
    have hnone := List.find?_eq_none.mp hfind _ h
    simp at hnone

theorem resolve_eq_ok (h : resolve order images k8sVersion = .ok image) :
    ∃ ocpVersion, k8sToOCP order k8sVersion = .ok ocpVersion ∧ image ∈ images ∧ image ≠ "" ∧
      extractOCPVersion image = ocpVersion := by
  unfold resolve at h
  split at h
  · cases h
  · rename_i ocpVersion hversion
    split at h
    · rename_i found hfind
      cases h
      have hpred := List.find?_some hfind
      rw [Bool.and_eq_true, decide_eq_true_eq, beq_iff_eq] at hpred
      exact ⟨ocpVersion, hversion, List.mem_of_find?_eq_some hfind, hpred⟩
    · cases h

theorem resolve_isOk (hversion : k8sToOCP order k8sVersion = .ok ocpVersion) (hmem : image ∈ images)
    (hne : image ≠ "") (hocp : extractOCPVersion image = ocpVersion) :
    ∃ found, resolve order images k8sVersion = .ok found := by
  unfold resolve
  rw [hversion]
  dsimp only
  cases hfind : images.find? fun image => image ≠ "" && extractOCPVersion image == ocpVersion with
  | some found => exact ⟨found, rfl⟩
  | none =>
    have hnone := List.find?_eq_none.mp hfind image hmem
    simp [hne, hocp] at hnone

end

def Available (matrix : CompatibilityMatrix) (images : List String) (k8sVersion : String) : Prop :=
  ∃ ocpVersion, (ocpVersion, k8sVersion) ∈ matrix.entries ∧
    ∃ image ∈ images, image ≠ "" ∧ extractOCPVersion image = ocpVersion

/-- In every order and for every list of images, an image is returned exactly if there is one, and
it maps back to the version that was asked for. -/
structure Exact (matrix : CompatibilityMatrix) (k8sVersion : String) : Prop where
  complete : ∀ order images, order.Perm matrix.entries →
    ((∃ image, resolve order images k8sVersion = .ok image) ↔ Available matrix images k8sVersion)
  sound : ∀ order images image, order.Perm matrix.entries →
    resolve order images k8sVersion = .ok image →
    releaseImageToK8sVersion image matrix = k8sVersion

/-- Among the OpenShift versions for this Kubernetes version, one that an image can have is the
only one, and is not empty. -/
def Unambiguous (matrix : CompatibilityMatrix) (k8sVersion : String) : Prop :=
  ∀ ocpVersion, (ocpVersion, k8sVersion) ∈ matrix.entries →
    (∃ image, image ≠ "" ∧ extractOCPVersion image = ocpVersion) →
      (∀ other, (other, k8sVersion) ∈ matrix.entries → other = ocpVersion) ∧
        (ocpVersion = "" → k8sVersion = "")

section

variable {matrix : CompatibilityMatrix} {k8sVersion : String}

theorem lookup_of_mem (h : (ocpVersion, k8sVersion) ∈ matrix.entries) :
    matrix.entries.lookup ocpVersion = some k8sVersion := by
  obtain ⟨before, after, hsplit⟩ := List.append_of_mem h
  refine List.lookup_eq_some_iff.mpr ⟨before, after, hsplit, ?_⟩
  intro entry hbefore
  have hnodup := matrix.distinct
  rw [hsplit, List.map_append, List.map_cons] at hnodup
  have hne := (List.nodup_append.mp hnodup).2.2 entry.1 (List.mem_map_of_mem hbefore) ocpVersion
    List.mem_cons_self
  simpa using hne.symm

theorem exact_of_unambiguous (h : Unambiguous matrix k8sVersion) : Exact matrix k8sVersion := by
  constructor
  · intro order images hperm
    constructor
    · rintro ⟨image, himage⟩
      obtain ⟨ocpVersion, hversion, hmem, hne, hocp⟩ := resolve_eq_ok himage
      exact ⟨ocpVersion, hperm.mem_iff.mp (k8sToOCP_eq_ok hversion), image, hmem, hne, hocp⟩
    · rintro ⟨ocpVersion, hentry, image, hmem, hne, hocp⟩
      obtain ⟨chosen, hchosen⟩ := k8sToOCP_isOk (hperm.mem_iff.mpr hentry)
      have hsame := (h ocpVersion hentry ⟨image, hne, hocp⟩).1 chosen
        (hperm.mem_iff.mp (k8sToOCP_eq_ok hchosen))
      exact resolve_isOk hchosen hmem hne (hocp.trans hsame.symm)
  · intro order images image hperm himage
    obtain ⟨ocpVersion, hversion, _, hne, hocp⟩ := resolve_eq_ok himage
    have hentry := hperm.mem_iff.mp (k8sToOCP_eq_ok hversion)
    rw [releaseImageToK8sVersion, hocp]
    split
    · rename_i hempty
      exact ((h ocpVersion hentry ⟨image, hne, hocp⟩).2 hempty).symm
    · rw [lookup_of_mem hentry]
      rfl

theorem unambiguous_of_exact (h : Exact matrix k8sVersion) : Unambiguous matrix k8sVersion := by
  intro ocpVersion hentry himage
  obtain ⟨image, hne, hocp⟩ := himage
  have havailable : Available matrix [image] k8sVersion :=
    ⟨ocpVersion, hentry, image, List.mem_singleton_self image, hne, hocp⟩
  constructor
  · intro other hother
    have hperm := (List.perm_cons_erase hother).symm
    obtain ⟨found, hfound⟩ := (h.complete _ [image] hperm).mpr havailable
    obtain ⟨chosen, hchosen, hmem, _, hfoundOcp⟩ := resolve_eq_ok hfound
    rw [List.mem_singleton.mp hmem, hocp] at hfoundOcp
    have hfirst : k8sToOCP ((other, k8sVersion) :: matrix.entries.erase (other, k8sVersion))
        k8sVersion = .ok other := by
      rw [k8sToOCP, List.find?_cons_of_pos (by simp)]
    rw [hfirst] at hchosen
    cases hchosen
    exact hfoundOcp.symm
  · rintro rfl
    obtain ⟨found, hfound⟩ := (h.complete _ [image] (.refl _)).mpr havailable
    obtain ⟨_, _, hmem, _, _⟩ := resolve_eq_ok hfound
    have hsound := h.sound _ [image] found (.refl _) hfound
    rw [List.mem_singleton.mp hmem, releaseImageToK8sVersion, hocp] at hsound
    exact hsound.symm

end

/-- The resolver is complete and sound for a version exactly if the matrix is not ambiguous
there. -/
theorem resolution_exact_iff (matrix : CompatibilityMatrix) (k8sVersion : String) :
    Exact matrix k8sVersion ↔ Unambiguous matrix k8sVersion :=
  ⟨unambiguous_of_exact, exact_of_unambiguous⟩

theorem splitOnAux_next {s sep : String} {b i j : String.Pos.Raw} {r : List String}
    (hend : i.atEnd s = false) (hne : (i.get s == j.get sep) = false) :
    String.splitOnAux s sep b i j r = String.splitOnAux s sep b ((i.unoffsetBy j).next s) 0 r := by
  rw [String.splitOnAux]
  simp only [hend, hne, Bool.false_eq_true, if_false]

theorem splitOn_reference : "ocp:4.18".splitOn ":" = ["ocp", "4.18"] := by
  rw [String.splitOn, if_neg (by decide)]
  iterate 3 rw [splitOnAux_next (by decide +kernel) (by decide +kernel)]
  rw [String.splitOnAux, if_neg (by decide +kernel), if_pos (by decide +kernel),
    if_pos (by decide +kernel)]
  iterate 4 rw [splitOnAux_next (by decide +kernel) (by decide +kernel)]
  rw [String.splitOnAux, if_pos (by decide +kernel)]
  decide +kernel

theorem splitOn_tag : "4.18".splitOn "." = ["4", "18"] := by
  rw [String.splitOn, if_neg (by decide), splitOnAux_next (by decide +kernel) (by decide +kernel),
    String.splitOnAux, if_neg (by decide +kernel), if_pos (by decide +kernel),
    if_pos (by decide +kernel)]
  iterate 2 rw [splitOnAux_next (by decide +kernel) (by decide +kernel)]
  rw [String.splitOnAux, if_pos (by decide +kernel)]
  decide +kernel

def sharedMatrix : CompatibilityMatrix where
  entries := [("4.17", "1.30"), ("4.18", "1.30")]
  distinct := by decide

/-- The only image is of the second version, and whether it is found depends on the order in which
the matrix is iterated. -/
theorem available_image_missed :
    Available sharedMatrix ["ocp:4.18"] "1.30" ∧
      resolve sharedMatrix.entries ["ocp:4.18"] "1.30" =
        .error ⟨.unprocessableEntity, "no ClusterImageSet found for version 1.30"⟩ ∧
      resolve sharedMatrix.entries.reverse ["ocp:4.18"] "1.30" = .ok "ocp:4.18" := by
  have hocp : extractOCPVersion "ocp:4.18" = "4.18" := by
    simp only [extractOCPVersion, splitOn_reference, List.reverse_cons, List.reverse_nil,
      List.nil_append, List.cons_append, splitOn_tag]
    decide
  refine ⟨⟨"4.18", by decide, "ocp:4.18", by decide, by decide, hocp⟩, ?_, ?_⟩
  · simp [resolve, sharedMatrix, k8sToOCP, hocp]
  · simp [resolve, sharedMatrix, k8sToOCP, hocp]

end VersionResolution
