import EnvironmentAgent.ClusterReconcile

/-! # What the composite status follows

The status that was emitted last is always composed of the current HostedCluster and of what the
monitor remembers of the NodePool. -/
namespace CompositeTracking

open ClusterReconcile LabelledRuns
open TimerDebouncer (clusterAttempts)

def hcStatusOf (obj : Resource) : ClusterStatus :=
  mapConditionsToStatus obj.conditions obj.deletionTimestamp

def npStatusOf (w : World) (id : String) : Option ClusterStatus :=
  (w.nodePools id).bind fun obj => mapNodePoolConditionsToStatus obj.conditions

def composite (w : World) (id : String) (hc : Resource) : ClusterStatus :=
  computeCompositeStatus (hcStatusOf hc) (npStatusOf w id)

/-- Whether the HostedCluster of an instance is there, and what is remembered of its NodePool. -/
abbrev Memory := Bool × Option ClusterStatus

def remember (id : String) (memory : Memory) (event : Event) : Memory :=
  if event.obj.instanceID = id then
    match event with
    | .set .hostedCluster _ => (true, memory.2)
    | .set .nodePool obj => (memory.1, (mapNodePoolConditionsToStatus obj.conditions).or memory.2)
    | .deleteHostedCluster _ => (false, none)
    | .deleteNodePool _ => (memory.1, if memory.1 then none else memory.2)
  else memory

def remembered (id : String) (l : List Event) : Memory := l.foldl (remember id) (false, none)

structure Consistent (inst : InstanceState) (emitted : List ClusterStatus) : Prop where
  published : inst.lastPublished =
    inst.hcStatus.map (computeCompositeStatus · inst.npStatus)
  last : inst.hcStatus ≠ none → emitted.getLast? = inst.lastPublished

section Instance

variable {inst : InstanceState} {emitted : List ClusterStatus}

def outStatus (x : InstanceState × Option (ClusterStatus × String)) : Option ClusterStatus :=
  x.2.map Prod.fst

theorem emit_fst (inst : InstanceState) (c : ClusterStatus) (msg : String) :
    (inst.emit c msg).1 = { inst with lastPublished := some c } := by
  unfold InstanceState.emit
  split
  · rename_i hsame
    rw [← hsame]
  · rfl

theorem emit_out (inst : InstanceState) (c : ClusterStatus) (msg : String) :
    outStatus (inst.emit c msg) = if inst.lastPublished = some c then none else some c := by
  unfold InstanceState.emit
  split <;> rfl

theorem emit_last {c : ClusterStatus} {msg : String} (h : emitted.getLast? = inst.lastPublished) :
    (emitted ++ (outStatus (inst.emit c msg)).toList).getLast? = some c := by
  rw [emit_out]
  split
  · rename_i hsame
    simpa using h.trans hsame
  · simp

theorem consistent_emit {hc c : ClusterStatus} {msg : String} (hhc : inst.hcStatus = some hc)
    (hc' : c = computeCompositeStatus hc inst.npStatus)
    (hlast : emitted.getLast? = inst.lastPublished) :
    Consistent (inst.emit c msg).1 (emitted ++ (outStatus (inst.emit c msg)).toList) ∧
      (inst.emit c msg).1.hcStatus = some hc ∧
      (inst.emit c msg).1.npStatus = inst.npStatus := by
  subst hc'
  refine ⟨⟨?_, fun _ => ?_⟩, ?_, ?_⟩
  · simp [emit_fst, hhc]
  · rw [emit_last hlast, emit_fst]
  · rw [emit_fst, ← hhc]
  · rw [emit_fst]

theorem Consistent.hostedCluster (h : Consistent inst emitted)
    (hlast : emitted.getLast? = inst.lastPublished) (obj : Resource) :
    Consistent (inst.reconcileHostedCluster obj).1
        (emitted ++ (outStatus (inst.reconcileHostedCluster obj)).toList) ∧
      (inst.reconcileHostedCluster obj).1.hcStatus = some (hcStatusOf obj) ∧
      (inst.reconcileHostedCluster obj).1.npStatus = inst.npStatus := by
  unfold InstanceState.reconcileHostedCluster
  generalize hseen : (if inst.seenHC = "" then { inst with seenHC := obj.name } else inst) = seen
  have hfields : seen.hcStatus = inst.hcStatus ∧ seen.npStatus = inst.npStatus ∧
      seen.lastPublished = inst.lastPublished := by
    rw [← hseen]
    split <;> exact ⟨rfl, rfl, rfl⟩
  obtain ⟨hhc, hnp, hpublished⟩ := hfields
  dsimp only
  split
  · rename_i hsame
    refine ⟨⟨?_, fun _ => ?_⟩, hsame, hnp⟩
    · rw [hpublished, hhc, hnp, h.published]
    · simpa [outStatus, hpublished] using hlast
  · rw [← hnp]
    exact consistent_emit rfl rfl (hlast.trans hpublished.symm)

theorem Consistent.nodePool (h : Consistent inst emitted) (obj : Resource) :
    Consistent (inst.reconcileNodePool obj).1
        (emitted ++ (outStatus (inst.reconcileNodePool obj)).toList) ∧
      (inst.reconcileNodePool obj).1.hcStatus = inst.hcStatus ∧
      (inst.reconcileNodePool obj).1.npStatus =
        (mapNodePoolConditionsToStatus obj.conditions).or inst.npStatus := by
  unfold InstanceState.reconcileNodePool
  generalize hseen : (if inst.seenNP = "" then { inst with seenNP := obj.name } else inst) = seen
  have hfields : seen.hcStatus = inst.hcStatus ∧ seen.npStatus = inst.npStatus ∧
      seen.lastPublished = inst.lastPublished := by
    rw [← hseen]
    split <;> exact ⟨rfl, rfl, rfl⟩
  obtain ⟨hhc, hnp, hpublished⟩ := hfields
  -- nothing is emitted and nothing of the composite changes
  have quiet : ∀ new : InstanceState, new.hcStatus = seen.hcStatus → new.npStatus = seen.npStatus →
      new.lastPublished = seen.lastPublished → Consistent new (emitted ++ []) := by
    intro new hhc' hnp' hpublished'
    refine ⟨?_, fun hne => ?_⟩
    · rw [hpublished', hpublished, hhc', hhc, hnp', hnp, h.published]
    · rw [List.append_nil, hpublished', hpublished]
      exact h.last (by rwa [hhc', hhc] at hne)
  dsimp only
  cases hmap : mapNodePoolConditionsToStatus obj.conditions with
  | none => exact ⟨quiet seen rfl rfl rfl, hhc, hnp⟩
  | some np =>
    dsimp only
    split
    · rename_i hsame
      exact ⟨quiet _ rfl rfl rfl, hhc, hsame⟩
    · rename_i hnew
      rw [← hhc]
      cases hseenHC : seen.hcStatus with
      | none =>
        refine ⟨⟨?_, fun hne => absurd rfl hne⟩, rfl, rfl⟩
        rw [hpublished, h.published, ← hhc, hseenHC]
        rfl
      | some hc =>
        have hlast := h.last (by rw [← hhc, hseenHC]; simp)
        exact consistent_emit rfl rfl (hlast.trans hpublished.symm)

theorem Consistent.dropNodePool {hc : ClusterStatus} (h : Consistent inst emitted)
    (hhc : inst.hcStatus = some hc) :
    Consistent (inst.dropNodePool hc).1
        (emitted ++ (outStatus (inst.dropNodePool hc)).toList) ∧
      (inst.dropNodePool hc).1.hcStatus = some hc ∧ (inst.dropNodePool hc).1.npStatus = none :=
  consistent_emit hhc rfl (h.last (by simp [hhc]))

end Instance

def kept (w : World) (id : String) : InstanceState := (w.state.lookup id).getD emptyState

structure Tracking (w : World) (id : String) (memory : Memory) : Prop where
  labelled : ∀ obj, w.hostedClusters id = some obj ∨ w.nodePools id = some obj →
    obj.instanceID = id ∧ id ≠ ""
  present : memory.1 = (w.hostedClusters id).isSome
  np : (kept w id).npStatus = memory.2
  hc : (kept w id).hcStatus = (w.hostedClusters id).map hcStatusOf
  consistent : Consistent (kept w id) (w.emitted id)

section Events

variable {w : World} {id : String} {memory : Memory} {obj : Resource}

theorem kept_insert (w : World) (id : String) (inst : InstanceState) :
    kept { w with state := w.state.insert id inst } id = inst := by
  simp [kept]

theorem handle_other (w : World) (event : Event) (hid : event.obj.instanceID ≠ id) :
    kept (w.handle event).1 id = kept w id ∧
      (w.handle event).1.hostedClusters id = w.hostedClusters id ∧
      (w.handle event).1.nodePools id = w.nodePools id ∧
      (w.handle event).1.emitted id = w.emitted id := by
  have hne : id ≠ event.obj.instanceID := Ne.symm hid
  have hinsert : ∀ inst : InstanceState,
      (w.state.insert event.obj.instanceID inst).lookup id = w.state.lookup id :=
    fun inst => Finmap.lookup_insert_of_ne _ hne
  have hreconcile : ∀ resType,
      (reconcileResource w.state resType event.obj).1.lookup id = w.state.lookup id := by
    intro resType
    unfold reconcileResource
    split
    · rfl
    · exact hinsert _
  cases event with
  | set resType obj =>
    cases resType with
    | hostedCluster =>
      refine ⟨congrArg (Option.getD · emptyState) (hreconcile .hostedCluster),
        Function.update_of_ne hne _ _, rfl, ?_⟩
      exact (Function.update_of_ne hne _ _).trans (Function.update_of_ne hne _ _)
    | nodePool =>
      exact ⟨congrArg (Option.getD · emptyState) (hreconcile .nodePool), rfl,
        Function.update_of_ne hne _ _, Function.update_of_ne hne _ _⟩
  | deleteHostedCluster obj =>
    refine ⟨congrArg (Option.getD · emptyState) ?_, Function.update_of_ne hne _ _, rfl, rfl⟩
    change (handleDeleteHostedCluster w.state obj).1.lookup id = _
    unfold handleDeleteHostedCluster
    split
    · rfl
    · exact Finmap.lookup_erase_ne hne
  | deleteNodePool obj =>
    refine ⟨congrArg (Option.getD · emptyState) ?_, rfl, Function.update_of_ne hne _ _,
      Function.update_of_ne hne _ _⟩
    change (handleDeleteNodePool w.state obj).1.lookup id = _
    unfold handleDeleteNodePool
    split
    · rfl
    · split
      · rfl
      · split
        · rfl
        · exact hinsert _

theorem out_status {x : InstanceState × Option (ClusterStatus × String)} :
    (x.2.map fun y => (⟨id, y.1, y.2⟩ : StatusEvent)).map (·.status) = outStatus x := by
  rw [Option.map_map]
  rfl

def since (w : World) (id : String) : List ClusterStatus :=
  if w.hostedClusters id = none then [] else w.emitted id

theorem handle_hostedCluster (w : World) (hlabel : obj.instanceID ≠ "") :
    let x := (kept w obj.instanceID).reconcileHostedCluster obj
    let y := w.handle (.set .hostedCluster obj)
    kept y.1 obj.instanceID = x.1 ∧ y.1.hostedClusters obj.instanceID = some obj ∧
      y.1.emitted obj.instanceID = since w obj.instanceID ++ (outStatus x).toList ∧
      y.2 = x.2.map fun z => ⟨obj.instanceID, z.1, z.2⟩ := by
  refine ⟨?_, Function.update_self _ _ _, ?_, ?_⟩
  · simp only [World.handle, reconcileResource, if_neg hlabel]
    exact kept_insert _ _ _
  · simp only [World.handle, World.log, reconcileResource, if_neg hlabel, Function.update_self,
      out_status]
    rfl
  · simp only [World.handle, reconcileResource, if_neg hlabel]
    rfl

theorem handle_nodePool (w : World) (hlabel : obj.instanceID ≠ "") :
    let x := (kept w obj.instanceID).reconcileNodePool obj
    let y := w.handle (.set .nodePool obj)
    kept y.1 obj.instanceID = x.1 ∧ y.1.nodePools obj.instanceID = some obj ∧
      y.1.emitted obj.instanceID = w.emitted obj.instanceID ++ (outStatus x).toList ∧
      y.2 = x.2.map fun z => ⟨obj.instanceID, z.1, z.2⟩ := by
  refine ⟨?_, Function.update_self _ _ _, ?_, ?_⟩
  · simp only [World.handle, reconcileResource, if_neg hlabel]
    exact kept_insert _ _ _
  · simp only [World.handle, World.log, reconcileResource, if_neg hlabel, Function.update_self,
      out_status]
    rfl
  · simp only [World.handle, reconcileResource, if_neg hlabel]
    rfl

theorem tracking_hostedCluster (h : Tracking w obj.instanceID memory)
    (hlabel : obj.instanceID ≠ "") :
    Tracking (w.handle (.set .hostedCluster obj)).1 obj.instanceID (true, memory.2) := by
  have hlast : (since w obj.instanceID).getLast? = (kept w obj.instanceID).lastPublished := by
    unfold since
    split
    · rename_i hnone
      rw [h.consistent.published, h.hc, hnone]
      rfl
    · rename_i hsome
      exact h.consistent.last (by simpa [h.hc] using hsome)
  have hbefore : Consistent (kept w obj.instanceID) (since w obj.instanceID) :=
    ⟨h.consistent.published, fun _ => hlast⟩
  obtain ⟨hconsistent, hhc, hnp⟩ := hbefore.hostedCluster hlast obj
  obtain ⟨hkept, hset, hemitted, -⟩ := handle_hostedCluster w hlabel
  refine ⟨fun other hother => ?_, ?_, ?_, ?_, ?_⟩
  · rcases hother with hother | hother
    · rw [hset] at hother
      rw [← Option.some.inj hother]
      exact ⟨rfl, hlabel⟩
    · exact h.labelled other (.inr hother)
  · rw [hset]
    rfl
  · rw [hkept, hnp, h.np]
  · rw [hkept, hhc, hset]
    rfl
  · rw [hkept, hemitted]
    exact hconsistent

theorem tracking_nodePool (h : Tracking w obj.instanceID memory) (hlabel : obj.instanceID ≠ "") :
    Tracking (w.handle (.set .nodePool obj)).1 obj.instanceID
      (memory.1, (mapNodePoolConditionsToStatus obj.conditions).or memory.2) := by
  obtain ⟨hconsistent, hhc, hnp⟩ := h.consistent.nodePool obj
  obtain ⟨hkept, hset, hemitted, -⟩ := handle_nodePool w hlabel
  refine ⟨fun other hother => ?_, h.present, ?_, ?_, ?_⟩
  · rcases hother with hother | hother
    · exact h.labelled other (.inl hother)
    · rw [hset] at hother
      rw [← Option.some.inj hother]
      exact ⟨rfl, hlabel⟩
  · rw [hkept, hnp, h.np]
  · rw [hkept, hhc]
    exact h.hc
  · rw [hkept, hemitted]
    exact hconsistent

theorem tracking_deleteHostedCluster (h : Tracking w obj.instanceID memory)
    (hlabel : obj.instanceID ≠ "") :
    Tracking (w.handle (.deleteHostedCluster obj)).1 obj.instanceID (false, none) := by
  have hkept : kept (w.handle (.deleteHostedCluster obj)).1 obj.instanceID = emptyState := by
    simp [kept, World.handle, handleDeleteHostedCluster, if_neg hlabel]
  have hgone : (w.handle (.deleteHostedCluster obj)).1.hostedClusters obj.instanceID = none :=
    Function.update_self _ _ _
  refine ⟨fun other hother => ?_, ?_, ?_, ?_, ?_⟩
  · rcases hother with hother | hother
    · rw [hgone] at hother
      cases hother
    · exact h.labelled other (.inr hother)
  · rw [hgone]
    rfl
  · rw [hkept]
    rfl
  · rw [hkept, hgone]
    rfl
  · rw [hkept]
    exact ⟨rfl, fun hne => absurd rfl hne⟩

theorem tracking_deleteNodePool (h : Tracking w obj.instanceID memory)
    (hlabel : obj.instanceID ≠ "") :
    Tracking (w.handle (.deleteNodePool obj)).1 obj.instanceID
      (memory.1, if memory.1 then none else memory.2) := by
  have hgone : (w.handle (.deleteNodePool obj)).1.nodePools obj.instanceID = none :=
    Function.update_self _ _ _
  have hlabelled : ∀ other, (w.handle (.deleteNodePool obj)).1.hostedClusters obj.instanceID =
      some other ∨ (w.handle (.deleteNodePool obj)).1.nodePools obj.instanceID = some other →
      other.instanceID = obj.instanceID ∧ obj.instanceID ≠ "" := by
    intro other hother
    rcases hother with hother | hother
    · exact h.labelled other (.inl hother)
    · rw [hgone] at hother
      cases hother
  cases hhc : w.hostedClusters obj.instanceID with
  | none =>
    -- the HostedCluster was not seen, and the handler returns
    have hunseen : (kept w obj.instanceID).hcStatus = none := by rw [h.hc, hhc]; rfl
    have hquiet : handleDeleteNodePool w.state obj = (w.state, none) := by
      unfold handleDeleteNodePool
      rw [if_neg hlabel]
      split
      · rfl
      · rename_i inst hlookup
        have hinst : inst.hcStatus = none := by simpa [kept, hlookup] using hunseen
        rw [hinst]
    have hpresent : memory.1 = false := by rw [h.present, hhc]; rfl
    refine ⟨hlabelled, h.present, ?_, ?_, ?_⟩
    · rw [hpresent]
      simpa [World.handle, hquiet, kept] using h.np
    · simpa [World.handle, hquiet, kept] using h.hc
    · simpa [World.handle, hquiet, kept, World.log] using h.consistent
  | some hc =>
    have hseen : (kept w obj.instanceID).hcStatus = some (hcStatusOf hc) := by rw [h.hc, hhc]; rfl
    have hpresent : memory.1 = true := by rw [h.present, hhc]; rfl
    obtain ⟨inst, hlookup⟩ : ∃ inst, w.state.lookup obj.instanceID = some inst := by
      cases hlookup : w.state.lookup obj.instanceID with
      | none => simp [kept, hlookup, emptyState] at hseen
      | some inst => exact ⟨inst, rfl⟩
    have hkept : kept w obj.instanceID = inst := by simp [kept, hlookup]
    obtain ⟨hconsistent, hhc', hnp'⟩ := h.consistent.dropNodePool hseen
    rw [hkept] at hseen hconsistent hhc' hnp'
    have hhandle : handleDeleteNodePool w.state obj =
        (w.state.insert obj.instanceID (inst.dropNodePool (hcStatusOf hc)).1,
          (inst.dropNodePool (hcStatusOf hc)).2.map fun y => ⟨obj.instanceID, y.1, y.2⟩) := by
      unfold handleDeleteNodePool
      rw [if_neg hlabel, hlookup]
      simp only [hseen]
    have hkept' : kept (w.handle (.deleteNodePool obj)).1 obj.instanceID =
        (inst.dropNodePool (hcStatusOf hc)).1 := by
      simp [kept, World.handle, hhandle]
    have hemitted : (w.handle (.deleteNodePool obj)).1.emitted obj.instanceID =
        w.emitted obj.instanceID ++
          (outStatus (inst.dropNodePool (hcStatusOf hc))).toList := by
      simp only [World.handle, World.log, hhandle, Function.update_self, out_status]
    refine ⟨hlabelled, h.present, ?_, ?_, ?_⟩
    · rw [hkept', hnp', hpresent]
      rfl
    · rw [hkept', hhc']
      change some (hcStatusOf hc) = (w.hostedClusters obj.instanceID).map hcStatusOf
      rw [hhc]
      rfl
    · rw [hkept', hemitted]
      exact hconsistent

theorem tracking_step {event : Event} (h : Tracking w id memory) (hdelivers : Delivers w event) :
    Tracking (w.handle event).1 id (remember id memory event) := by
  unfold remember
  by_cases hid : event.obj.instanceID = id
  · subst hid
    rw [if_pos rfl]
    cases event with
    | set resType obj =>
      cases resType with
      | hostedCluster => exact tracking_hostedCluster h hdelivers
      | nodePool => exact tracking_nodePool h hdelivers
    | deleteHostedCluster obj => exact tracking_deleteHostedCluster h hdelivers.1
    | deleteNodePool obj => exact tracking_deleteNodePool h hdelivers.1
  · rw [if_neg hid]
    obtain ⟨hkept, hhc, hnp, hemitted⟩ := handle_other w event hid
    refine ⟨?_, ?_, ?_, ?_, ?_⟩
    · rw [hhc, hnp]
      exact h.labelled
    · rw [hhc, h.present]
    · rw [hkept, h.np]
    · rw [hkept, hhc, h.hc]
    · rw [hkept, hemitted]
      exact h.consistent

theorem tracking_newWorld (id : String) : Tracking newWorld id (false, none) where
  labelled := by simp [newWorld]
  present := rfl
  np := by simp [kept, newWorld, emptyState]
  hc := by simp [kept, newWorld, emptyState]
  consistent := by simpa [kept, newWorld] using ⟨rfl, fun hne => absurd rfl hne⟩

end Events

/-- After every sequence of adds, updates and deletes, the status emitted last since the
HostedCluster was added is that of the objects exactly when what is remembered of the NodePool gives
the same composite. -/
theorem composite_tracks {l : List Event} {w : World} {id : String} {hc : Resource}
    (h : Run WorldStep newWorld l w) (hhc : w.hostedClusters id = some hc) :
    (w.emitted id).getLast? = some (composite w id hc) ↔
      computeCompositeStatus (hcStatusOf hc) (remembered id l).2 = composite w id hc := by
  have htracking : Tracking w id (remembered id l) := by
    refine h.invariant (I := fun l w => Tracking w id (remembered id l)) (tracking_newWorld id) ?_
    intro l u event v hu hstep
    cases hstep with
    | handle hdelivers =>
      rw [remembered, List.foldl_append]
      exact tracking_step hu hdelivers
  have hlast := htracking.consistent.last (by rw [htracking.hc, hhc]; simp)
  rw [hlast, htracking.consistent.published, htracking.hc, hhc, htracking.np]
  simp

def readyCluster : Resource := ⟨"hc", "a", false, [⟨"Available", .isTrue, ""⟩]⟩

def unreadyPool : Resource := ⟨"np", "a", false, [⟨"Ready", .isFalse, "no nodes"⟩]⟩

def poolPlay : List Event × World :=
  playMoves World.next newWorld [.set .hostedCluster readyCluster, .set .nodePool unreadyPool]

theorem composite_tracks_pool : poolPlay.2.emitted "a" = [.ready, .unavailable] ∧
    (poolPlay.2.emitted "a").getLast? = some (composite poolPlay.2 "a" readyCluster) :=
  ⟨by decide +kernel, (composite_tracks (run_playMoves _ step_world _ _) (by decide +kernel)).mpr
    (by decide +kernel)⟩

def recreatedPlay : List Event × World :=
  playMoves World.next newWorld
    [.set .hostedCluster readyCluster, .set .nodePool unreadyPool,
      .deleteHostedCluster readyCluster, .set .hostedCluster readyCluster]

def clearedPlay : List Event × World :=
  playMoves World.next newWorld
    [.set .hostedCluster readyCluster, .set .nodePool unreadyPool,
      .set .nodePool { unreadyPool with conditions := [] }]

/-- The status of the NodePool is forgotten in the one case and kept in the other. -/
theorem composite_loses_track :
    Run WorldStep newWorld recreatedPlay.1 recreatedPlay.2 ∧
      recreatedPlay.2.hostedClusters "a" = some readyCluster ∧
      (recreatedPlay.2.emitted "a").getLast? = some .ready ∧
      composite recreatedPlay.2 "a" readyCluster = .unavailable ∧
      Run WorldStep newWorld clearedPlay.1 clearedPlay.2 ∧
      clearedPlay.2.hostedClusters "a" = some readyCluster ∧
      (clearedPlay.2.emitted "a").getLast? = some .unavailable ∧
      composite clearedPlay.2 "a" readyCluster = .ready :=
  ⟨run_playMoves _ step_world _ _, by decide +kernel, by decide +kernel, by decide +kernel,
    run_playMoves _ step_world _ _, by decide +kernel, by decide +kernel, by decide +kernel⟩

def handleAll (w : World) : List Event → World × List StatusEvent
  | [] => (w, [])
  | event :: rest =>
    let x := w.handle event
    let y := handleAll x.1 rest
    (y.1, x.2.toList ++ y.2)

def Redelivery (w : World) (id : String) : Event → Prop
  | .set .hostedCluster obj => w.hostedClusters id = some obj
  | .set .nodePool obj => w.nodePools id = some obj
  | _ => False

def Missed (w : World) (id : String) (hc : Resource) : Prop :=
  npStatusOf w id ≠ none ∧ (w.emitted id).getLast? ≠ some (composite w id hc)

section Resync

variable {w : World} {id : String} {memory : Memory} {hc obj : Resource}

theorem redeliver_hostedCluster (h : Tracking w id memory) (hhc : w.hostedClusters id = some hc) :
    (w.handle (.set .hostedCluster hc)).2 = none ∧
      (w.handle (.set .hostedCluster hc)).1.emitted id = w.emitted id := by
  obtain ⟨rfl, hlabel⟩ := h.labelled hc (.inl hhc)
  obtain ⟨-, -, hemitted, hout⟩ := handle_hostedCluster w hlabel
  have hseen : (kept w hc.instanceID).hcStatus = some (hcStatusOf hc) := by rw [h.hc, hhc]; rfl
  have hquiet : ((kept w hc.instanceID).reconcileHostedCluster hc).2 = none := by
    unfold InstanceState.reconcileHostedCluster
    dsimp only
    rw [if_pos]
    split <;> exact hseen
  refine ⟨by rw [hout, hquiet]; rfl, ?_⟩
  rw [hemitted, outStatus, hquiet]
  simp [since, hhc]

theorem nodePool_out {inst : InstanceState} {emitted : List ClusterStatus}
    {status np : ClusterStatus} (h : Consistent inst emitted) (hhc : inst.hcStatus = some status)
    (hnp : mapNodePoolConditionsToStatus obj.conditions = some np) :
    outStatus (inst.reconcileNodePool obj) =
      if emitted.getLast? = some (computeCompositeStatus status (some np)) then none
      else some (computeCompositeStatus status (some np)) := by
  have hlast := h.last (by simp [hhc])
  unfold InstanceState.reconcileNodePool
  generalize hseen : (if inst.seenNP = "" then { inst with seenNP := obj.name } else inst) = seen
  have hfields : seen.hcStatus = inst.hcStatus ∧ seen.npStatus = inst.npStatus ∧
      seen.lastPublished = inst.lastPublished := by
    rw [← hseen]
    split <;> exact ⟨rfl, rfl, rfl⟩
  obtain ⟨hhc', hnp', hpublished⟩ := hfields
  simp only [hnp, hhc', hhc]
  split
  · rename_i hsame
    rw [hlast, h.published, hhc, ← hnp', hsame]
    simp [outStatus]
  · rw [hlast, ← hpublished]
    exact emit_out _ _ _

theorem redeliver_nodePool (h : Tracking w id memory) (hhc : w.hostedClusters id = some hc)
    (hobj : w.nodePools id = some obj) :
    ((w.handle (.set .nodePool obj)).2 = none ∧
        (w.handle (.set .nodePool obj)).1.emitted id = w.emitted id ∧ ¬ Missed w id hc) ∨
      ((∃ event, (w.handle (.set .nodePool obj)).2 = some event ∧ event.instanceID = id ∧
        event.status = composite w id hc) ∧ Missed w id hc) := by
  obtain ⟨rfl, hlabel⟩ := h.labelled obj (.inr hobj)
  obtain ⟨-, -, hemitted, hout⟩ := handle_nodePool w hlabel
  have hseen : (kept w obj.instanceID).hcStatus = some (hcStatusOf hc) := by rw [h.hc, hhc]; rfl
  have hnp : npStatusOf w obj.instanceID = mapNodePoolConditionsToStatus obj.conditions := by
    simp [npStatusOf, hobj]
  -- nothing is emitted
  have quiet : outStatus ((kept w obj.instanceID).reconcileNodePool obj) = none →
      (w.handle (.set .nodePool obj)).2 = none ∧
        (w.handle (.set .nodePool obj)).1.emitted obj.instanceID = w.emitted obj.instanceID := by
    intro hnone
    refine ⟨?_, by simp [hemitted, hnone]⟩
    rw [hout]
    exact Option.map_eq_none_iff.mpr (Option.map_eq_none_iff.mp hnone)
  cases hmap : mapNodePoolConditionsToStatus obj.conditions with
  | none =>
    left
    obtain ⟨hnone, hsame⟩ := quiet (by simp [InstanceState.reconcileNodePool, hmap, outStatus])
    exact ⟨hnone, hsame, fun hmissed => hmissed.1 (hnp.trans hmap)⟩
  | some np =>
    have hstatus := nodePool_out h.consistent hseen hmap
    have hcomposite : composite w obj.instanceID hc =
        computeCompositeStatus (hcStatusOf hc) (some np) := by rw [composite, hnp, hmap]
    rw [← hcomposite] at hstatus
    by_cases hlast : (w.emitted obj.instanceID).getLast? = some (composite w obj.instanceID hc)
    · left
      rw [if_pos hlast] at hstatus
      obtain ⟨hnone, hsame⟩ := quiet hstatus
      exact ⟨hnone, hsame, fun hmissed => hmissed.2 hlast⟩
    · right
      rw [if_neg hlast] at hstatus
      obtain ⟨x, hx, hfst⟩ := Option.map_eq_some_iff.mp hstatus
      refine ⟨⟨⟨obj.instanceID, x.1, x.2⟩, by rw [hout, hx]; rfl, rfl, hfst⟩, ?_, hlast⟩
      rw [hnp, hmap]
      simp

theorem redelivery_objects {event : Event} (h : Tracking w id memory)
    (hredelivery : Redelivery w id event) :
    (w.handle event).1.hostedClusters id = w.hostedClusters id ∧
      (w.handle event).1.nodePools id = w.nodePools id ∧ Delivers w event := by
  cases event with
  | deleteHostedCluster | deleteNodePool => exact hredelivery.elim
  | set resType obj =>
    cases resType with
    | hostedCluster =>
      have hset : w.hostedClusters id = some obj := hredelivery
      obtain ⟨rfl, hlabel⟩ := h.labelled obj (.inl hset)
      exact ⟨(Function.update_self _ _ _).trans hset.symm, rfl, hlabel⟩
    | nodePool =>
      have hset : w.nodePools id = some obj := hredelivery
      obtain ⟨rfl, hlabel⟩ := h.labelled obj (.inr hset)
      exact ⟨rfl, (Function.update_self _ _ _).trans hset.symm, hlabel⟩

/-- By induction on what is delivered: until the NodePool is delivered, what was missed stays so;
it is emitted then, and nothing after that. -/
theorem handleAll_redelivered {order : List Event} (h : Tracking w id memory)
    (hhc : w.hostedClusters id = some hc) (horder : ∀ event ∈ order, Redelivery w id event) :
    (∃ x ∈ (handleAll w order).2, x.instanceID = id ∧ x.status = composite w id hc) ↔
      Missed w id hc ∧ ∃ obj, .set .nodePool obj ∈ order := by
  induction order generalizing w memory with
  | nil => simp [handleAll]
  | cons event rest ih =>
    have hredelivery := horder event List.mem_cons_self
    obtain ⟨hsameHC, hsameNP, hdelivers⟩ := redelivery_objects h hredelivery
    have hrest : ∀ e ∈ rest, Redelivery (w.handle event).1 id e := by
      intro e he
      have hbefore := horder e (List.mem_cons_of_mem _ he)
      cases e with
      | deleteHostedCluster | deleteNodePool => exact hbefore
      | set resType obj =>
        cases resType with
        | hostedCluster => exact hsameHC.trans hbefore
        | nodePool => exact hsameNP.trans hbefore
    have hnext := ih (tracking_step h hdelivers) (hsameHC.trans hhc) hrest
    have hcomposite : composite (w.handle event).1 id hc = composite w id hc := by
      rw [composite, composite, npStatusOf, npStatusOf, hsameNP]
    have hmissed : (w.handle event).1.emitted id = w.emitted id →
        (Missed (w.handle event).1 id hc ↔ Missed w id hc) := by
      intro hemitted
      rw [Missed, Missed, hcomposite, hemitted, npStatusOf, npStatusOf, hsameNP]
    rw [hcomposite] at hnext
    simp only [handleAll, List.mem_append, List.mem_cons]
    cases event with
    | deleteHostedCluster | deleteNodePool => exact hredelivery.elim
    | set resType obj =>
      cases resType with
      | hostedCluster =>
        obtain rfl : hc = obj := Option.some.inj (hhc.symm.trans hredelivery)
        obtain ⟨hnone, hemitted⟩ := redeliver_hostedCluster h hhc
        rw [hmissed hemitted] at hnext
        simpa [hnone] using hnext
      | nodePool =>
        rcases redeliver_nodePool h hhc hredelivery with ⟨hnone, hemitted, hnot⟩ | ⟨hout, hyes⟩
        · rw [hmissed hemitted] at hnext
          simpa [hnone, hnot] using hnext
        · obtain ⟨event, hevent, hid, hstatus⟩ := hout
          refine iff_of_true ⟨event, .inl (by simp [hevent]), hid, hstatus⟩ ⟨hyes, obj, .inl rfl⟩

theorem tracking_monitor {attempts : ℕ} {l : List Action} {m : ClusterMonitor}
    (h : Run (Step attempts) newClusterMonitor l m) (id : String) :
    ∃ memory, Tracking m.world id memory := by
  refine h.preserves (I := fun m => ∃ memory, Tracking m.world id memory)
    ⟨_, tracking_newWorld id⟩ ?_
  intro u a v hu hstep
  obtain ⟨memory, hmemory⟩ := hu
  cases hstep with
  | handle _ hdelivers => exact ⟨_, tracking_step hmemory hdelivers⟩
  | submit | ignored | debounce => exact ⟨memory, hmemory⟩

end Resync

/-- Whatever happened before: when the informers deliver the unchanged objects of an instance again,
in any order, its composite status is submitted exactly when the NodePool has a status that was
missed. -/
theorem resync_heals {attempts : ℕ} {l : List Action} {m : ClusterMonitor} {id : String}
    {hc : Resource} {order : List Event} (h : Run (Step attempts) newClusterMonitor l m)
    (hhc : m.world.hostedClusters id = some hc)
    (horder : ∀ event ∈ order, Redelivery m.world id event)
    (hall : ∀ obj, m.world.nodePools id = some obj → .set .nodePool obj ∈ order) :
    (∃ x ∈ (handleAll m.world order).2, x.instanceID = id ∧ x.status = composite m.world id hc) ↔
      npStatusOf m.world id ≠ none ∧
        (m.world.emitted id).getLast? ≠ some (composite m.world id hc) := by
  obtain ⟨memory, htracking⟩ := tracking_monitor h id
  rw [handleAll_redelivered htracking hhc horder]
  refine and_iff_left_of_imp fun hmissed => ?_
  cases hnp : m.world.nodePools id with
  | none => exact absurd (by simp [npStatusOf, hnp]) hmissed.1
  | some obj => exact ⟨obj, hall obj hnp⟩

def forgottenPlay : List Action × ClusterMonitor :=
  playMoves (ClusterMonitor.next (clusterAttempts 3)) newClusterMonitor
    [.handle (.set .hostedCluster readyCluster), .submit .hostedCluster,
      .handle (.set .nodePool unreadyPool), .submit .nodePool,
      .handle (.deleteHostedCluster readyCluster), .submit .hostedCluster,
      .handle (.set .hostedCluster readyCluster), .submit .hostedCluster]

theorem resync_heals_forgotten : composite forgottenPlay.2.world "a" readyCluster = .unavailable ∧
    ∃ x ∈ (handleAll forgottenPlay.2.world
        [.set .hostedCluster readyCluster, .set .nodePool unreadyPool]).2,
      x.instanceID = "a" ∧ x.status = composite forgottenPlay.2.world "a" readyCluster := by
  have hhc : forgottenPlay.2.world.hostedClusters "a" = some readyCluster := by decide +kernel
  have hnp : forgottenPlay.2.world.nodePools "a" = some unreadyPool := by decide +kernel
  refine ⟨by decide +kernel, (resync_heals (run_playMoves _ (step_monitor _) _ _) hhc ?_ ?_).mpr
    ⟨by decide +kernel, by decide +kernel⟩⟩
  · intro event hevent
    simp only [List.mem_cons, List.not_mem_nil, or_false] at hevent
    rcases hevent with rfl | rfl
    · exact hhc
    · exact hnp
  · intro obj hobj
    obtain rfl := Option.some.inj (hnp.symm.trans hobj)
    exact .tail _ (.head _)

def readyPool : Resource := ⟨"np", "a", false, [⟨"Ready", .isTrue, ""⟩]⟩

def droppedPlay : List Action × ClusterMonitor :=
  playMoves (ClusterMonitor.next (clusterAttempts 3)) newClusterMonitor
    ([.handle (.set .hostedCluster readyCluster), .submit .hostedCluster,
      .handle (.set .nodePool readyPool)] ++
      [.job 0, .job 0, .fail 0, .job 0, .fail 0, .job 0, .fail 0, .job 0, .fail 0, .job 0,
        .job 0].map Move.debounce)

/-- The status is dropped, nothing is published and nothing is left to do; and no number of
resyncs submits it again. -/
theorem dropped_status_not_resubmitted :
    Run (Step (clusterAttempts 3)) newClusterMonitor droppedPlay.1 droppedPlay.2 ∧
      droppedPlay.2.world.hostedClusters "a" = some readyCluster ∧
      droppedPlay.2.world.nodePools "a" = some readyPool ∧
      droppedPlay.2.debouncer.submitted = [("a", ⟨"a", .ready, ""⟩)] ∧
      (∃ rest, droppedPlay.1 = rest ++ [.debounce (.drop 0), .debounce (.done 0)]) ∧
      droppedPlay.2.debouncer.published = [] ∧ droppedPlay.2.debouncer.jobs 0 = .ended ∧
      ∀ order, (∀ event ∈ order, Redelivery droppedPlay.2.world "a" event) →
        ¬ ∃ x ∈ (handleAll droppedPlay.2.world order).2, x.instanceID = "a" ∧
          x.status = composite droppedPlay.2.world "a" readyCluster := by
  have hrun : Run (Step (clusterAttempts 3)) newClusterMonitor droppedPlay.1 droppedPlay.2 :=
    run_playMoves _ (step_monitor _) _ _
  have hhc : droppedPlay.2.world.hostedClusters "a" = some readyCluster := by decide +kernel
  have hlast : (droppedPlay.2.world.emitted "a").getLast? =
      some (composite droppedPlay.2.world "a" readyCluster) := by decide +kernel
  refine ⟨hrun, hhc, by decide +kernel, by decide +kernel, ⟨droppedPlay.1.take 12, rfl⟩,
    by decide +kernel, by decide +kernel, fun order horder hsubmitted => ?_⟩
  obtain ⟨memory, htracking⟩ := tracking_monitor hrun "a"
  exact ((handleAll_redelivered htracking hhc horder).mp hsubmitted).1.2 hlast

end CompositeTracking
