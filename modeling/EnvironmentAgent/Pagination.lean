import EnvironmentAgent.Base64Text
import EnvironmentAgent.DecimalText
import EnvironmentAgent.EmbeddedHandlers
import EnvironmentAgent.PagedListing
import Mathlib.Data.String.Basic

/-! # Listing page by page

`List` of the container and the database stores and `ListClusters`. Each call fetches every managed
object, sorts by name and cuts out a window; the token is the offset of the next one in base64. -/
namespace Pagination

open AtomicPrograms SequentialPrograms ObjectStore PagedListing Base64Text DecimalText
open EmbeddedHandlers (StoreError DomainError labelManagedBy labelInstanceID labelServiceType
  valueManagedByDCM)

def itoa (n : ℤ) : Bytes := (intText n).map fun c => UInt8.ofNat c.toNat

/-- `strconv.Atoi`. A byte outside ASCII is neither a digit nor a sign, whatever it is read as. -/
def atoi (text : Bytes) : Option ℤ := parseInt (text.map fun b => Char.ofNat b.toNat)

variable {B C Item E : Type}

def parsePageToken (invalid : E) (token : Bytes) : Except E ℤ :=
  if token = [] then .ok 0
  else
    match decode token with
    | none => .error invalid
    | some decoded =>
      match atoi decoded with
      | none => .error invalid
      | some offset => if offset < 0 then .error invalid else .ok offset

def nextPageToken (offset : ℤ) : Bytes := encode (itoa offset)

def offsetOf (token : Bytes) : Option ℕ := (parsePageToken () token).toOption.map Int.toNat

theorem parsePageToken_cases (invalid : E) (token : Bytes) :
    (parsePageToken invalid token = .error invalid ∧ offsetOf token = none) ∨
      ∃ n : ℕ, parsePageToken invalid token = .ok (n : ℤ) ∧ offsetOf token = some n := by
  unfold offsetOf parsePageToken
  split
  · exact Or.inr ⟨0, rfl, rfl⟩
  · cases decode token with
    | none => exact Or.inl ⟨rfl, rfl⟩
    | some decoded =>
      dsimp only
      cases atoi decoded with
      | none => exact Or.inl ⟨rfl, rfl⟩
      | some offset =>
        dsimp only
        by_cases hneg : offset < 0
        · rw [if_pos hneg, if_pos hneg]
          exact Or.inl ⟨rfl, rfl⟩
        · obtain ⟨n, rfl⟩ := Int.eq_ofNat_of_zero_le (Int.not_lt.mp hneg)
          rw [if_neg hneg, if_neg hneg]
          exact Or.inr ⟨n, rfl, rfl⟩

theorem atoi_itoa {n : ℤ} (hlo : -2 ^ 63 ≤ n) (hhi : n < 2 ^ 63) : atoi (itoa n) = some n := by
  have hascii : ∀ c ∈ intText n, Char.ofNat (UInt8.ofNat c.toNat).toNat = c := by
    intro c hc
    rcases mem_intText hc with rfl | hdigit
    · rfl
    · have hlt := (Char.isDigit_iff_toNat.mp hdigit).2
      have hsize : c.toNat < 256 := Nat.lt_of_le_of_lt hlt (by decide)
      rw [UInt8.toNat_ofNat_of_lt' hsize, Char.ofNat_toNat]
  have hback : (itoa n).map (fun b => Char.ofNat b.toNat) = intText n := by
    rw [itoa, List.map_map]
    exact (List.map_congr_left hascii).trans (List.map_id _)
  rw [atoi, hback]
  exact parseInt_intText hlo hhi

theorem offsetOf_nextPageToken {n : ℕ} (h : n < 2 ^ 63) : offsetOf (nextPageToken n) = some n := by
  have hne : itoa n ≠ [] := by
    simpa [itoa] using intText_ne_nil n
  have hparse : parsePageToken () (nextPageToken n) = .ok (n : ℤ) := by
    rw [parsePageToken, nextPageToken, if_neg (encode_ne_nil hne), decode_encode]
    dsimp only
    rw [atoi_itoa (by omega) (by omega)]
    exact if_neg (by omega)
  rw [offsetOf, hparse]
  rfl

theorem offsetOf_nil : offsetOf [] = some 0 := rfl

def pageTokens : Tokens Bytes where
  start := []
  tokenOf n := nextPageToken n
  offsetOf := offsetOf
  bound := 2 ^ 63
  offsetOf_start := offsetOf_nil
  offsetOf_tokenOf _ h := offsetOf_nextPageToken h

inductive Op (C : Type) where
  | list (s : Selector)
  | build (o : Object C) (instanceID : String)

/-- An object is converted with the help of others that are fetched for it; `R` is what comes
back. -/
abbrev api (B C R : Type) : Signature :=
  ⟨Op C, fun
    | .list _ => Except ApiError (List (Object B))
    | .build _ _ => R⟩

def sortByName (items : List (Object C)) : List (Object C) :=
  items.mergeSort fun a b => a.name ≤ b.name

def add64 (a b : ℤ) : ℤ := Int.bmod (a + b) (2 ^ 64)

/-- `xs[low:high]`, which panics if the bounds are not in order. Every bound here is at most the
length. -/
def slice {S : Signature} (xs : List C) (low high : ℤ) : Prog S (List C) :=
  if 0 ≤ low ∧ low ≤ high ∧ high ≤ xs.length then .ret ((xs.take high.toNat).drop low.toNat)
  else .raise

def window {S : Signature} (size offset : ℤ) (sorted : List C) :
    Prog S (List C × Option Bytes) := do
  let total : ℤ := sorted.length
  let offset := min offset total
  let paged ← slice sorted offset total
  let limit := min size paged.length
  let page ← slice paged 0 limit
  return (page, if add64 offset limit < total then some (nextPageToken (add64 offset limit))
    else none)

def clusterWindow {S : Signature} (pageSize offset : ℤ) (sorted : List C) :
    Prog S (List C × Option Bytes) := do
  let total : ℤ := sorted.length
  let offset := if offset > total then total else offset
  let sum := add64 offset pageSize
  let stop := if sum > total then total else sum
  let page ← slice sorted offset stop
  return (page, if stop < total then some (nextPageToken stop) else none)

def instanceID (o : Object C) : String := (o.labels.lookup labelInstanceID).getD ""

def buildAll : List (Object C) → Prog (api B C (Except StoreError Item))
    (Except StoreError (List Item))
  | [] => return .ok []
  | o :: rest => do
    match ← Prog.perform (S := api B C (Except StoreError Item)) (.build o (instanceID o)) with
    | .error e => return .error e
    | .ok item =>
      match ← buildAll rest with
      | .error e => return .error e
      | .ok items => return .ok (item :: items)

def managedSelector (serviceType : String) : Selector :=
  [(labelManagedBy, valueManagedByDCM), (labelServiceType, serviceType)]

def defaultPageSize : ℤ := 50

def decodePageToken (token : Bytes) : Except StoreError ℤ :=
  parsePageToken (.invalidArgument "invalid page_token") token

def listPage (serviceType : String) (decodeBody : B → Except StoreError C) (maxPageSize : Int32)
    (pageToken : Bytes) :
    Prog (api B C (Except StoreError Item)) (Except StoreError (Page Bytes Item)) := do
  let size := if maxPageSize.toInt ≤ 0 then defaultPageSize else maxPageSize.toInt
  match decodePageToken pageToken with
  | .error e => return .error e
  | .ok offset =>
    match ← Prog.perform (S := api B C (Except StoreError Item))
        (.list (managedSelector serviceType)) with
    | .error e => return .error (.api e)
    | .ok items =>
      match items.mapM fun o => (decodeBody o.body).map fun c => ⟨o.name, o.labels, c⟩ with
      | .error e => return .error e
      | .ok objects =>
        let (paged, next) ← window size offset (sortByName objects)
        match ← buildAll paged with
        | .error e => return .error e
        | .ok results => return .ok ⟨results, next⟩

def K8sContainerStore.list (maxPageSize : Int32) (pageToken : Bytes) :
    Prog (api B B (Except StoreError Item)) (Except StoreError (Page Bytes Item)) :=
  listPage "container" .ok maxPageSize pageToken

def CnpgDatabaseStore.list (fromUnstructured : B → Except StoreError C) (maxPageSize : Int32)
    (pageToken : Bytes) :
    Prog (api B C (Except StoreError Item)) (Except StoreError (Page Bytes Item)) :=
  listPage "database" fromUnstructured maxPageSize pageToken

def convertAll : List (Object B) → Prog (api B B Item) (List Item)
  | [] => return []
  | o :: rest => do
    let item ← Prog.perform (S := api B B Item) (.build o (instanceID o))
    let items ← convertAll rest
    return item :: items

def invalidPageToken : DomainError := ⟨.invalidArgument, "invalid page_token"⟩

def listClusters (pageSize : Int64) (pageToken : Bytes) :
    Prog (api B B Item) (Except DomainError (Page Bytes Item)) := do
  match ← Prog.perform (S := api B B Item) (.list (managedSelector "cluster")) with
  | .error _ => return .error ⟨.internal, "failed to list clusters"⟩
  | .ok items =>
    match parsePageToken invalidPageToken pageToken with
    | .error e => return .error e
    | .ok offset =>
      let (page, next) ← clusterWindow pageSize.toInt offset (sortByName items)
      let clusters ← convertAll page
      return .ok ⟨clusters, next⟩

/-- The objects of a namespace, with what they decode to and what they may be shown as. Neither
decoding nor converting fails. -/
structure Inventory (serviceType : String) (decodeBody : B → Except StoreError C) (Item : Type)
    where
  objects : List (Object B)
  distinct : (objects.map Object.name).Nodup
  short : objects.length < 2 ^ 63
  typed : B → C
  decodes : ∀ o ∈ objects, (managedSelector serviceType).holds o.labels = true →
    decodeBody o.body = .ok (typed o.body)
  shows : Object C → String → Item → Prop
  converts : ∀ o id, ∃ item, shows o id item

variable {serviceType : String} {decodeBody : B → Except StoreError C}

def Inventory.managed (inv : Inventory serviceType decodeBody Item) : List (Object C) :=
  (inv.objects.filter fun o => (managedSelector serviceType).holds o.labels).map fun o =>
    ⟨o.name, o.labels, inv.typed o.body⟩

def Inventory.display (inv : Inventory serviceType decodeBody Item) (o : Object C) (item : Item) :
    Prop :=
  inv.shows o (instanceID o) item

def Answers {R : Type} (inv : Inventory serviceType decodeBody Item) (wrap : Item → R) :
    Action (api B C R) Unit
  | .list s, _, .ok items, _ => items.Perm (inv.objects.filter fun o => s.holds o.labels)
  | .list _, _, .error _, _ => False
  | .build o id, _, r, _ => ∃ item, r = wrap item ∧ inv.shows o id item

theorem exists_performs {R α : Type} (inv : Inventory serviceType decodeBody Item)
    (wrap : Item → R) (p : Prog (api B C R) α) : ∃ r, Performs (Answers inv wrap) p () r () := by
  induction p with
  | ret a => exact ⟨_, .ret a ()⟩
  | raise => exact ⟨_, .raise ()⟩
  | call o k ih =>
    cases o with
    | list s =>
      obtain ⟨r, hr⟩ := ih (.ok (inv.objects.filter fun o => s.holds o.labels))
      have hlist : Answers inv wrap (.list s) () (.ok (inv.objects.filter fun o =>
          s.holds o.labels)) () := List.Perm.refl _
      exact ⟨r, .call hlist hr⟩
    | build o id =>
      obtain ⟨item, hitem⟩ := inv.converts o id
      obtain ⟨r, hr⟩ := ih (wrap item)
      exact ⟨r, .call ⟨item, rfl, hitem⟩ hr⟩

theorem managed_distinct (inv : Inventory serviceType decodeBody Item) :
    (inv.managed.map Object.name).Nodup := by
  rw [Inventory.managed, List.map_map]
  exact (List.filter_sublist.map _).nodup inv.distinct

theorem managed_short (inv : Inventory serviceType decodeBody Item) :
    inv.managed.length < 2 ^ 63 := by
  rw [Inventory.managed, List.length_map]
  exact Nat.lt_of_le_of_lt (List.length_filter_le _ _) inv.short

section

variable {xs ys : List (Object C)}

theorem sortByName_perm : (sortByName xs).Perm xs := List.mergeSort_perm _ _

theorem sortByName_pairwise (h : (xs.map Object.name).Nodup) :
    (sortByName xs).Pairwise fun a b => a.name < b.name := by
  have hle : (sortByName xs).Pairwise fun a b => a.name ≤ b.name := by
    have hsorted : (xs.mergeSort fun a b => decide (a.name ≤ b.name)).Pairwise fun a b =>
        decide (a.name ≤ b.name) = true :=
      List.pairwise_mergeSort (by simpa using fun a b c => le_trans)
        (by simpa using fun a b => le_total _ _) xs
    simpa [sortByName] using hsorted
  have hne : (sortByName xs).Pairwise fun a b => a.name ≠ b.name := by
    apply List.pairwise_map.mp
    exact (sortByName_perm.map Object.name).nodup_iff.mpr h
  exact (hle.and hne).imp fun hboth => lt_of_le_of_ne hboth.1 hboth.2

theorem sortByName_congr (hperm : xs.Perm ys) (h : (ys.map Object.name).Nodup) :
    sortByName xs = sortByName ys := by
  have hx := sortByName_pairwise ((hperm.map Object.name).nodup_iff.mpr h)
  have hsame := (sortByName_perm.trans hperm).trans sortByName_perm.symm
  exact hsame.eq_of_pairwise (fun a b _ _ hab hba => absurd hab (lt_asymm hba)) hx
    (sortByName_pairwise h)

end

theorem add64_of_lt {a b : ℤ} (hlo : -2 ^ 63 ≤ a + b) (hhi : a + b < 2 ^ 63) :
    add64 a b = a + b := by
  rw [add64]
  exact Int.bmod_eq_of_le (by omega) (by omega)

theorem add64_overflow {a b : ℤ} (hlo : 2 ^ 63 ≤ a + b) (hhi : a + b < 2 ^ 64) :
    add64 a b = a + b - 2 ^ 64 := by
  rw [add64, ← Int.sub_bmod_right]
  exact Int.bmod_eq_of_le (by omega) (by omega)

variable {S : Signature}

theorem slice_eq {xs : List C} {low high : ℕ} (hlow : low ≤ high) (hhigh : high ≤ xs.length) :
    slice (S := S) xs (low : ℤ) (high : ℤ) = pure ((xs.take high).drop low) := by
  rw [slice, if_pos (by omega)]
  rfl

theorem slice_panics {xs : List C} {low high : ℤ} (h : high < low) :
    slice (S := S) xs low high = .raise := by
  rw [slice, if_neg (by omega)]

theorem drop_min (xs : List C) (offset : ℕ) : xs.drop (min offset xs.length) = xs.drop offset :=
  List.drop_eq_drop_iff.mpr (by omega)

theorem window_eq {xs : List C} (hshort : xs.length < 2 ^ 63) (size offset : ℕ) :
    window (S := S) (size : ℤ) (offset : ℤ) xs =
      pure ((xs.drop offset).take size, if offset + size < xs.length then
        some (nextPageToken ((offset + size : ℕ) : ℤ)) else none) := by
  have hfrom : min (offset : ℤ) xs.length = ((min offset xs.length : ℕ) : ℤ) := by omega
  have hlimit : min (size : ℤ) ((xs.drop (min offset xs.length)).length : ℤ) =
      ((min size (xs.drop (min offset xs.length)).length : ℕ) : ℤ) := by omega
  rw [window, hfrom]
  dsimp only
  rw [slice_eq (Nat.min_le_right _ _) (Nat.le_refl _), pure_bind, List.take_length, hlimit]
  have hzero : (0 : ℤ) = ((0 : ℕ) : ℤ) := rfl
  rw [hzero, slice_eq (Nat.zero_le _) (Nat.min_le_right _ _), pure_bind, List.drop_zero,
    ← List.take_eq_take_min, List.length_drop, add64_of_lt (by omega) (by omega), drop_min]
  by_cases h : offset + size < xs.length
  · have hsum : ((min offset xs.length : ℕ) : ℤ) +
        ((min size (xs.length - min offset xs.length) : ℕ) : ℤ) = ((offset + size : ℕ) : ℤ) := by
      omega
    rw [hsum, if_pos h, if_pos (by omega)]
  · rw [if_neg h, if_neg (by omega)]

theorem clusterWindow_eq {xs : List C} {size : ℕ} (hshort : size + xs.length < 2 ^ 63) (offset : ℕ)
    :
    clusterWindow (S := S) (size : ℤ) (offset : ℤ) xs =
      pure ((xs.drop offset).take size, if offset + size < xs.length then
        some (nextPageToken ((offset + size : ℕ) : ℤ)) else none) := by
  have hfrom : (if (offset : ℤ) > xs.length then (xs.length : ℤ) else offset) =
      ((min offset xs.length : ℕ) : ℤ) := by split <;> omega
  have hstop : (if add64 ((min offset xs.length : ℕ) : ℤ) size > xs.length then (xs.length : ℤ)
      else add64 ((min offset xs.length : ℕ) : ℤ) size) =
      ((min (min offset xs.length + size) xs.length : ℕ) : ℤ) := by
    rw [add64_of_lt (by omega) (by omega)]
    split <;> omega
  rw [clusterWindow, hfrom, hstop, slice_eq (by omega) (by omega), pure_bind,
    ← List.take_eq_take_min, ← List.take_drop, drop_min]
  by_cases h : offset + size < xs.length
  · have hsum : min (min offset xs.length + size) xs.length = offset + size := by omega
    rw [hsum, if_pos h, if_pos (by omega)]
  · rw [if_neg h, if_neg (by omega)]

theorem clusterWindow_panics {xs : List C} {pageSize offset : ℤ} (hoffset : offset ≤ xs.length)
    (h : add64 offset pageSize < offset) :
    clusterWindow (S := S) pageSize offset xs = .raise := by
  rw [clusterWindow, if_neg (by omega), if_neg (by omega), slice_panics h]
  rfl

section

variable (inv : Inventory serviceType decodeBody Item)

theorem ensures_buildAll (objects : List (Object C)) :
    Ensures (Answers inv Except.ok) (buildAll objects) () fun r _ =>
      ∃ items, r = some (.ok items) ∧ List.Forall₂ inv.display objects items := by
  induction objects with
  | nil => exact ⟨[], rfl, .nil⟩
  | cons o rest ih =>
    rintro x _ ⟨item, rfl, hitem⟩
    apply (ensures_bind (p := buildAll rest)).mpr
    apply ih.mono
    rintro _ _ ⟨items, rfl, hitems⟩
    exact ⟨item :: items, rfl, .cons hitem hitems⟩

end

theorem ensures_convertAll {decode : B → Except StoreError B}
    (inv : Inventory serviceType decode Item) (objects : List (Object B)) :
    Ensures (Answers inv id) (convertAll objects) () fun r _ =>
      ∃ items, r = some items ∧ List.Forall₂ inv.display objects items := by
  induction objects with
  | nil => exact ⟨[], rfl, .nil⟩
  | cons o rest ih =>
    intro x _ hx
    obtain ⟨item, hitem, hshown⟩ := hx
    apply (ensures_bind (p := convertAll rest)).mpr
    apply ih.mono
    rintro _ _ ⟨items, rfl, hitems⟩
    exact ⟨item :: items, by rw [hitem]; rfl, .cons hshown hitems⟩

def pageSizeOf (maxPageSize : Int32) : ℕ :=
  if maxPageSize.toInt ≤ 0 then 50 else maxPageSize.toInt.toNat

theorem pageSizeOf_eq (maxPageSize : Int32) :
    (if maxPageSize.toInt ≤ 0 then defaultPageSize else maxPageSize.toInt) =
      (pageSizeOf maxPageSize : ℤ) := by
  unfold pageSizeOf defaultPageSize
  split <;> omega

theorem pageSizeOf_pos (maxPageSize : Int32) : 0 < pageSizeOf maxPageSize := by
  unfold pageSizeOf
  split <;> omega

def calls {R E : Type} (inv : Inventory serviceType decodeBody Item) (wrap : Item → R)
    (list : Bytes → Prog (api B C R) (Except E (Page Bytes Item))) : PageCall Bytes Item E :=
  fun token r => Performs (Answers inv wrap) (list token) () r ()

theorem sorted_short (inv : Inventory serviceType decodeBody Item) :
    (sortByName inv.managed).length < 2 ^ 63 := by
  rw [sortByName_perm.length_eq]
  exact managed_short inv

section

variable (inv : Inventory serviceType decodeBody Item)

theorem mapM_decodeBody {items : List (Object B)}
    (hperm : items.Perm (inv.objects.filter fun o =>
      (managedSelector serviceType).holds o.labels)) :
    (items.mapM fun o => (decodeBody o.body).map fun c => (⟨o.name, o.labels, c⟩ : Object C)) =
      .ok (items.map fun o => ⟨o.name, o.labels, inv.typed o.body⟩) := by
  have hdecodes : ∀ o ∈ items, decodeBody o.body = .ok (inv.typed o.body) := by
    intro o ho
    obtain ⟨hmem, hheld⟩ := List.mem_filter.mp (hperm.mem_iff.mp ho)
    exact inv.decodes o hmem hheld
  clear hperm
  induction items with
  | nil => rfl
  | cons o items ih =>
    rw [List.mapM_cons, hdecodes o List.mem_cons_self,
      ih fun o' ho' => hdecodes o' (List.mem_cons_of_mem o ho')]
    rfl

theorem ensures_listPage (maxPageSize : Int32) (token : Bytes) :
    Ensures (Answers inv Except.ok) (listPage serviceType decodeBody maxPageSize token) ()
      fun r _ => Window pageTokens (.invalidArgument "invalid page_token") inv.display
        (sortByName inv.managed) (pageSizeOf maxPageSize) token r := by
  unfold listPage decodePageToken
  rcases parsePageToken_cases (StoreError.invalidArgument "invalid page_token") token with
    ⟨hparse, hoffset⟩ | ⟨offset, hparse, hoffset⟩
  · rw [hparse]
    exact Or.inl ⟨hoffset, rfl⟩
  · rw [hparse, pageSizeOf_eq]
    intro x _ hx
    cases x with
    | error e => exact hx.elim
    | ok items =>
      have hsorted : sortByName (items.map fun o =>
          (⟨o.name, o.labels, inv.typed o.body⟩ : Object C)) = sortByName inv.managed :=
        sortByName_congr (hx.map _) (managed_distinct inv)
      dsimp only [Prog.bind]
      rw [mapM_decodeBody inv hx]
      dsimp only
      rw [hsorted, window_eq (sorted_short inv), pure_bind]
      apply (ensures_bind (p := buildAll _)).mpr
      apply (ensures_buildAll inv _).mono
      rintro _ _ ⟨results, rfl, hresults⟩
      exact Or.inr ⟨offset, results, hoffset, hresults, rfl⟩

theorem listPage_serves (maxPageSize : Int32) :
    Serves pageTokens (calls inv Except.ok (listPage serviceType decodeBody maxPageSize))
      (.invalidArgument "invalid page_token") inv.display (sortByName inv.managed)
      (pageSizeOf maxPageSize) where
  responds _ := exists_performs inv _ _
  windows token r hcall := ensures_iff.mp (ensures_listPage inv maxPageSize token) r () hcall

end

section

variable (inv : Inventory serviceType (Except.ok : B → Except StoreError B) Item)

theorem managed_eq_filter :
    inv.managed = inv.objects.filter fun o => (managedSelector serviceType).holds o.labels := by
  rw [Inventory.managed]
  apply (List.map_congr_left ?_).trans (List.map_id _)
  intro o ho
  obtain ⟨hmem, hheld⟩ := List.mem_filter.mp ho
  have hbody := Except.ok.inj (inv.decodes o hmem hheld)
  rw [← hbody]
  rfl

end

section

variable (inv : Inventory "cluster" (Except.ok : B → Except StoreError B) Item)

theorem ensures_listClusters (pageSize : Int64) {size : ℕ} (hsize : pageSize.toInt = size)
    (hshort : size + inv.managed.length < 2 ^ 63) (token : Bytes) :
    Ensures (Answers inv id) (listClusters pageSize token) () fun r _ =>
      Window pageTokens invalidPageToken inv.display (sortByName inv.managed) size token r := by
  intro x _ hx
  cases x with
  | error e => exact hx.elim
  | ok items =>
    have hsorted := sortByName_congr (hx.trans (by rw [managed_eq_filter])) (managed_distinct inv)
    dsimp only [Prog.bind]
    rcases parsePageToken_cases invalidPageToken token with
      ⟨hparse, hoffset⟩ | ⟨offset, hparse, hoffset⟩
    · rw [hparse]
      exact Or.inl ⟨hoffset, rfl⟩
    · rw [hparse]
      dsimp only
      rw [hsorted, hsize, clusterWindow_eq (by rwa [sortByName_perm.length_eq]), pure_bind]
      apply (ensures_bind (p := convertAll _)).mpr
      apply (ensures_convertAll inv _).mono
      rintro _ _ ⟨clusters, rfl, hclusters⟩
      exact Or.inr ⟨offset, clusters, hoffset, hclusters, rfl⟩

theorem listClusters_panics (pageSize : Int64) {token : Bytes} {offset : ℕ}
    (hoffset : offsetOf token = some offset) (hle : offset ≤ inv.managed.length)
    (h : add64 offset pageSize.toInt < offset) :
    calls inv id (listClusters pageSize) token none := by
  have hlist : Answers inv id (.list (managedSelector "cluster")) ()
      (.ok (inv.objects.filter fun o => (managedSelector "cluster").holds o.labels)) () :=
    List.Perm.refl _
  refine .call hlist ?_
  dsimp only [Prog.bind]
  rcases parsePageToken_cases invalidPageToken token with ⟨_, hnone⟩ | ⟨offset', hparse, hsome⟩
  · rw [hoffset] at hnone
    cases hnone
  · rw [hoffset] at hsome
    cases hsome
    rw [hparse, ← managed_eq_filter]
    dsimp only
    rw [clusterWindow_panics (by rw [sortByName_perm.length_eq]; omega) h]
    exact .raise ()

theorem listClusters_enumerates_iff (pageSize : Int64) :
    Enumerates (calls inv id (listClusters pageSize)) [] invalidPageToken inv.display
        (sortByName inv.managed) ↔
      (pageSize.toInt = 0 ∧ inv.managed = []) ∨
        (1 ≤ pageSize.toInt ∧ pageSize.toInt + inv.managed.length < 2 ^ 63) := by
  have hlength : (sortByName inv.managed).length = inv.managed.length := sortByName_perm.length_eq
  have hmanaged := managed_short inv
  have hupper := pageSize.toInt_lt
  have hlower := pageSize.le_toInt
  by_cases hneg : pageSize.toInt < 0
  · constructor
    · intro henum
      have hpanic := listClusters_panics inv pageSize offsetOf_nil (Nat.zero_le _)
        (by rw [add64_of_lt (by omega) (by omega)]; omega)
      rcases henum.safe _ none hpanic with hr | ⟨page, hr⟩
      · cases hr
      · cases hr
    · intro hcond
      omega
  by_cases hlarge : 2 ^ 63 ≤ pageSize.toInt + inv.managed.length
  · constructor
    · intro henum
      have hpanic := listClusters_panics inv pageSize (offsetOf_nextPageToken hmanaged)
        (Nat.le_refl _)
        (by rw [add64_overflow (by omega) (by omega)]; omega)
      rcases henum.safe _ none hpanic with hr | ⟨page, hr⟩
      · cases hr
      · cases hr
    · intro hcond
      omega
  obtain ⟨size, hsize⟩ := Int.eq_ofNat_of_zero_le (Int.not_lt.mp hneg)
  have hserves : Serves pageTokens (calls inv id (listClusters pageSize)) invalidPageToken
      inv.display (sortByName inv.managed) size :=
    ⟨fun _ => exists_performs inv _ _, fun token r hcall =>
      ensures_iff.mp (ensures_listClusters inv pageSize hsize (by omega) token) r () hcall⟩
  have hiff := hserves.enumerates_iff (Nat.le_of_lt (sorted_short inv))
  rw [show pageTokens.start = [] from rfl] at hiff
  rw [hiff, hlength, ← List.length_eq_zero_iff]
  omega

end

/-- Following the tokens shows every object once, by increasing name, whatever the order of each
listing; and no token makes a call panic. -/
def ExactlyOnce (call : PageCall Bytes Item E) (invalid : E) (shows : Object C → Item → Prop)
    (objects : List (Object C)) : Prop :=
  ∃ sorted : List (Object C), sorted.Perm objects ∧
    (sorted.Pairwise fun a b => a.name < b.name) ∧ Enumerates call [] invalid shows sorted

theorem exactlyOnce_iff {call : PageCall Bytes Item E} {invalid : E}
    {shows : Object C → Item → Prop} {objects : List (Object C)}
    (h : (objects.map Object.name).Nodup) :
    ExactlyOnce call invalid shows objects ↔
      Enumerates call [] invalid shows (sortByName objects) := by
  constructor
  · rintro ⟨sorted, hperm, hpairwise, henum⟩
    have hsame : sorted = sortByName objects :=
      (hperm.trans sortByName_perm.symm).eq_of_pairwise
        (fun a b _ _ hab hba => absurd hab (lt_asymm hba)) hpairwise (sortByName_pairwise h)
    rwa [← hsame]
  · intro henum
    exact ⟨_, sortByName_perm, sortByName_pairwise h, henum⟩

theorem listPage_exactlyOnce (inv : Inventory serviceType decodeBody Item) (maxPageSize : Int32) :
    ExactlyOnce (calls inv Except.ok (listPage serviceType decodeBody maxPageSize))
      (.invalidArgument "invalid page_token") inv.display inv.managed :=
  (exactlyOnce_iff (managed_distinct inv)).mpr ((listPage_serves inv maxPageSize).enumerates
    (Or.inl (pageSizeOf_pos maxPageSize)) (Nat.le_of_lt (sorted_short inv)))

/-- The stores list every object once with any page size; `ListClusters` does so with a positive
size that cannot overflow, or with none if there is nothing to list. -/
theorem pagination_exact_iff (fromUnstructured : B → Except StoreError C) :
    (∀ (inv : Inventory "container" (Except.ok : B → Except StoreError B) Item)
      (maxPageSize : Int32),
      ExactlyOnce (calls inv Except.ok (K8sContainerStore.list maxPageSize))
        (.invalidArgument "invalid page_token") inv.display inv.managed) ∧
    (∀ (inv : Inventory "database" fromUnstructured Item) (maxPageSize : Int32),
      ExactlyOnce (calls inv Except.ok (CnpgDatabaseStore.list fromUnstructured maxPageSize))
        (.invalidArgument "invalid page_token") inv.display inv.managed) ∧
    (∀ (inv : Inventory "cluster" (Except.ok : B → Except StoreError B) Item)
      (pageSize : Int64),
      ExactlyOnce (calls inv id (listClusters pageSize))
        ⟨.invalidArgument, "invalid page_token"⟩ inv.display inv.managed ↔
        (pageSize.toInt = 0 ∧ inv.managed = []) ∨
          (1 ≤ pageSize.toInt ∧ pageSize.toInt + inv.managed.length < 2 ^ 63)) := by
  refine ⟨listPage_exactlyOnce, listPage_exactlyOnce, ?_⟩
  intro inv pageSize
  rw [exactlyOnce_iff (managed_distinct inv)]
  exact listClusters_enumerates_iff inv pageSize

def oneCluster : Inventory "cluster" (Except.ok : Unit → Except StoreError Unit) String where
  objects := [⟨"a", managedSelector "cluster", ()⟩]
  distinct := by simp
  short := by decide
  typed := id
  decodes _ _ _ := rfl
  shows o _ item := item = o.name
  converts o _ := ⟨o.name, rfl⟩

/-- With page size 0 the token leads back to itself, with -1 the first page panics, and with the
largest size a token for offset 1 does. -/
theorem clusters_loop_or_panic :
    calls oneCluster id (listClusters 0) [] (some (.ok ⟨[], some (nextPageToken 0)⟩)) ∧
    calls oneCluster id (listClusters 0) (nextPageToken 0)
      (some (.ok ⟨[], some (nextPageToken 0)⟩)) ∧
    calls oneCluster id (listClusters (-1)) [] none ∧
    calls oneCluster id (listClusters Int64.maxValue) (nextPageToken 1) none ∧
    ¬ ExactlyOnce (calls oneCluster id (listClusters 0)) invalidPageToken oneCluster.display
      oneCluster.managed := by
  have hone : oneCluster.managed.length = 1 := rfl
  have hsorted : (sortByName oneCluster.managed).length = 1 := sortByName_perm.length_eq
  have hloop : ∀ token, offsetOf token = some 0 → calls oneCluster id (listClusters 0) token
      (some (.ok ⟨[], some (nextPageToken 0)⟩)) := by
    intro token htoken
    obtain ⟨r, hr⟩ := exists_performs oneCluster id (listClusters 0 token)
    have hzero : (0 : Int64).toInt = (0 : ℕ) := rfl
    have hwindow := ensures_iff.mp (ensures_listClusters oneCluster 0 hzero (by decide) token) r ()
      hr
    rcases hwindow with ⟨hnone, _⟩ | ⟨offset, items, hsome, hitems, hpage⟩
    · cases htoken.symm.trans hnone
    · cases htoken.symm.trans hsome
      rw [List.take_zero, List.forall₂_nil_left_iff] at hitems
      rw [if_pos (by omega), hitems] at hpage
      rwa [hpage] at hr
  refine ⟨hloop [] offsetOf_nil, hloop _ (offsetOf_nextPageToken (n := 0) (by decide)), ?_, ?_, ?_⟩
  · exact listClusters_panics oneCluster (-1) offsetOf_nil (Nat.zero_le _)
      (by decide)
  · exact listClusters_panics oneCluster Int64.maxValue (offsetOf_nextPageToken (n := 1)
      (by decide)) (by omega) (by decide)
  · intro honce
    have henum := (exactlyOnce_iff (managed_distinct oneCluster)).mp honce
    rcases (listClusters_enumerates_iff oneCluster 0).mp henum with ⟨_, hnil⟩ | ⟨hpos, _⟩
    · rw [hnil] at hone
      cases hone
    · exact absurd hpos (by decide)

end Pagination
