import ProseCheck.Proofs.Machine
import Mathlib.Data.List.Forall2

/-!
# Pools of workers

A pool runs a machine on a list of jobs. The jobs wait in a queue, a free worker takes the next one,
jobs that run make steps in any order, and a job that is finished leaves its result in a slot of its
own. The caller reads the slots in the order of the jobs and raises the first exception that it
meets; jobs that still wait may then be given up. If the machine computes a function, then so does
the pool, whatever the order in which things happen: it gives what running the jobs one after the
other gives.
-/

namespace ProseCheck.Machine

open Relation (ReflTransGen)

variable {ι ρ ε β : Type}

/-! ### The steps of a pool -/

/-- The slot of a job in a pool. -/
inductive Slot (ι σ ρ : Type) where
  /-- The job waits in the queue. -/
  | queued (a : ι)
  /-- A worker runs the job. -/
  | running (s : σ)
  /-- The job has left its result. -/
  | finished (r : ρ)
  /-- The job was given up before a worker took it. -/
  | cancelled

/-- Whether the job waits in the queue. -/
def Slot.isQueued {σ : Type} : Slot ι σ ρ → Bool
  | queued _ => true
  | _ => false

/-- Whether a worker runs the job. -/
def Slot.isRunning {σ : Type} : Slot ι σ ρ → Bool
  | running _ => true
  | _ => false

/-- What the caller of a pool has got from it. -/
inductive Caller (ε β : Type) where
  /-- The values of the first slots; the next slot is to be read. -/
  | reading (values : List β)
  /-- The exception of a slot after slots with values. -/
  | raised (e : ε)

/-- The state of a pool. -/
structure Pool (ι ε β σ : Type) where
  /-- The slots in the order of the jobs. -/
  slots : List (Slot ι σ (Except ε β))
  /-- The caller. -/
  caller : Caller ε β

/-- The steps of a pool with a number of workers. -/
inductive PoolStep (m : Machine ι (Except ε β)) (workers : ℕ) :
    Pool ι ε β m.State → Pool ι ε β m.State → Prop where
  /-- A worker that is free takes the first job of the queue. -/
  | take {before after : List (Slot ι m.State (Except ε β))} {caller : Caller ε β} {a : ι}
      (hnext : ∀ slot ∈ before, slot.isQueued = false)
      (hfree : before.countP Slot.isRunning + after.countP Slot.isRunning < workers) :
      PoolStep m workers ⟨before ++ .queued a :: after, caller⟩
        ⟨before ++ .running (m.start a) :: after, caller⟩
  /-- A job that runs makes a step. -/
  | work {before after : List (Slot ι m.State (Except ε β))} {caller : Caller ε β}
      {s s' : m.State} (h : m.Step s s') :
      PoolStep m workers ⟨before ++ .running s :: after, caller⟩
        ⟨before ++ .running s' :: after, caller⟩
  /-- A job leaves its result, and its worker is free. -/
  | finish {before after : List (Slot ι m.State (Except ε β))} {caller : Caller ε β}
      {s : m.State} {r : Except ε β} (h : m.result? s = some r) :
      PoolStep m workers ⟨before ++ .running s :: after, caller⟩
        ⟨before ++ .finished r :: after, caller⟩
  /-- The caller reads a value. -/
  | read {slots : List (Slot ι m.State (Except ε β))} {values : List β} {b : β}
      (h : slots[values.length]? = some (.finished (.ok b))) :
      PoolStep m workers ⟨slots, .reading values⟩ ⟨slots, .reading (values ++ [b])⟩
  /-- The caller meets an exception. -/
  | raise {slots : List (Slot ι m.State (Except ε β))} {values : List β} {e : ε}
      (h : slots[values.length]? = some (.finished (.error e))) :
      PoolStep m workers ⟨slots, .reading values⟩ ⟨slots, .raised e⟩
  /-- A job in the queue is given up after the caller has met an exception. -/
  | cancel {before after : List (Slot ι m.State (Except ε β))} {e : ε} {a : ι} :
      PoolStep m workers ⟨before ++ .queued a :: after, .raised e⟩
        ⟨before ++ .cancelled :: after, .raised e⟩

/-- What a pool comes to when no job is left in the queue or at a worker: the values of all slots,
or the exception. -/
def Pool.result? {σ : Type} (p : Pool ι ε β σ) : Option (Except ε (List β)) :=
  if p.slots.any fun slot => slot.isQueued || slot.isRunning then none
  else
    match p.caller with
    | .reading values => if values.length = p.slots.length then some (.ok values) else none
    | .raised e => some (.error e)

/-- The machine that runs another one on jobs in a pool. -/
def pool (workers : ℕ) (m : Machine ι (Except ε β)) : Machine (List ι) (Except ε (List β)) where
  State := Pool ι ε β m.State
  start := fun jobs => ⟨jobs.map .queued, .reading []⟩
  Step := PoolStep m workers
  result? := Pool.result?

/-! ### Every order of steps gives the same -/

section Safety

variable {m : Machine ι (Except ε β)} {f : ι → Except ε β} {workers : ℕ} {jobs : List ι}

/-- What holds of the slot of a job. -/
inductive SlotInv (m : Machine ι (Except ε β)) (f : ι → Except ε β) (a : ι) :
    Slot ι m.State (Except ε β) → Prop where
  | queued : SlotInv m f a (.queued a)
  | running {s : m.State} (hs : m.Reaches a s) : SlotInv m f a (.running s)
  | finished {r : Except ε β} (hr : f a = r) : SlotInv m f a (.finished r)
  | cancelled : SlotInv m f a .cancelled

/-- What holds of the caller. -/
inductive CallerInv (f : ι → Except ε β) (jobs : List ι) : Caller ε β → Prop where
  | reading {values : List β} (h : (jobs.take values.length).mapM f = .ok values) :
      CallerInv f jobs (.reading values)
  | raised {e : ε} (h : jobs.mapM f = .error e) : CallerInv f jobs (.raised e)

/-- What holds in every state of a pool. -/
structure PoolInv (m : Machine ι (Except ε β)) (f : ι → Except ε β) (jobs : List ι)
    (p : Pool ι ε β m.State) : Prop where
  slots : List.Forall₂ (SlotInv m f) jobs p.slots
  caller : CallerInv f jobs p.caller

/-- A slot may be replaced by another one that is right for the same jobs. -/
private theorem forall₂_replace {σ : Type} {r : ι → σ → Prop} {before after : List σ} {x y : σ}
    (hreplace : ∀ a, r a x → r a y) {l : List ι} (h : List.Forall₂ r l (before ++ x :: after)) :
    List.Forall₂ r l (before ++ y :: after) := by
  induction before generalizing l with
  | nil =>
    obtain ⟨a, l, hx, hafter, rfl⟩ := List.forall₂_cons_right_iff.mp h
    exact .cons (hreplace a hx) hafter
  | cons z before ih =>
    obtain ⟨a, l, hz, hrest, rfl⟩ := List.forall₂_cons_right_iff.mp h
    exact .cons hz (ih hrest)

/-- The slot at a place belongs to the job at that place. -/
private theorem exists_job_of_getElem? {σ : Type} {r : ι → σ → Prop} {l : List ι}
    {slots : List σ} (h : List.Forall₂ r l slots) {n : ℕ} {x : σ} (hx : slots[n]? = some x) :
    ∃ a, l[n]? = some a ∧ r a x := by
  induction h generalizing n with
  | nil => simp at hx
  | @cons a y l slots hy _ ih =>
    cases n with
    | zero =>
      obtain rfl : y = x := by simpa using hx
      exact ⟨a, by simp, hy⟩
    | succ n => exact ih (by simpa using hx)

/-- The caller that reads the value of a slot has the values of one more job. -/
private theorem CallerInv.read {values : List β} {a : ι} {b : β}
    (h : CallerInv f jobs (.reading values)) (ha : jobs[values.length]? = some a)
    (hb : f a = .ok b) : CallerInv f jobs (.reading (values ++ [b])) := by
  cases h with
  | reading h =>
    have htake : jobs.take (values.length + 1) = jobs.take values.length ++ [a] := by
      rw [List.take_add_one, ha]
      rfl
    refine .reading ?_
    rw [List.length_append, List.length_singleton, htake]
    exact mapM_append_ok h hb

/-- The caller that meets an exception meets the first one in the order of the jobs. -/
private theorem CallerInv.raise {values : List β} {a : ι} {e : ε}
    (h : CallerInv f jobs (.reading values)) (ha : jobs[values.length]? = some a)
    (he : f a = .error e) : CallerInv f jobs (.raised e) := by
  cases h with
  | reading h =>
    obtain ⟨hlt, ha⟩ := List.getElem?_eq_some_iff.mp ha
    have hjobs : jobs.take values.length ++ a :: jobs.drop (values.length + 1) = jobs := by
      rw [← ha, ← List.drop_eq_getElem_cons hlt, List.take_append_drop]
    refine .raised ?_
    rw [← hjobs]
    exact mapM_append_error h he

/-- Every step of a pool keeps what holds of its slots and its caller. -/
theorem PoolInv.step (h : m.Computes f) {p p' : Pool ι ε β m.State} (hp : PoolInv m f jobs p)
    (hstep : PoolStep m workers p p') : PoolInv m f jobs p' := by
  obtain ⟨hslots, hcaller⟩ := hp
  cases hstep with
  | take _ _ =>
    refine ⟨forall₂_replace (fun a ha => ?_) hslots, hcaller⟩
    cases ha with
    | queued => exact .running (m.reaches_start _)
  | work hwork =>
    refine ⟨forall₂_replace (fun a ha => ?_) hslots, hcaller⟩
    cases ha with
    | running hs => exact .running (hs.tail hwork)
  | finish hr =>
    refine ⟨forall₂_replace (fun a ha => ?_) hslots, hcaller⟩
    cases ha with
    | running hs => exact .finished ((h a _).mp ⟨_, hs, hr⟩).symm
  | read hslot =>
    obtain ⟨a, ha, hfinished⟩ := exists_job_of_getElem? hslots hslot
    cases hfinished with
    | finished hb => exact ⟨hslots, hcaller.read ha hb⟩
  | raise hslot =>
    obtain ⟨a, ha, hfinished⟩ := exists_job_of_getElem? hslots hslot
    cases hfinished with
    | finished he => exact ⟨hslots, hcaller.raise ha he⟩
  | cancel =>
    refine ⟨forall₂_replace (fun a _ => ?_) hslots, hcaller⟩
    exact .cancelled

/-- A pool starts with all jobs in the queue and nothing read. -/
theorem PoolInv.start (jobs : List ι) : PoolInv m f jobs ((m.pool workers).start jobs) := by
  constructor
  · change List.Forall₂ (SlotInv m f) jobs (jobs.map .queued)
    rw [List.forall₂_map_right_iff, List.forall₂_same]
    exact fun a _ => .queued
  · exact .reading rfl

/-- A pool that is done has the result of running the jobs one after the other. -/
theorem PoolInv.result?_eq {p : Pool ι ε β m.State} (hp : PoolInv m f jobs p)
    {r : Except ε (List β)} (hr : p.result? = some r) : r = jobs.mapM f := by
  obtain ⟨slots, caller⟩ := p
  obtain ⟨hslots, hcaller⟩ := hp
  unfold Pool.result? at hr
  split at hr
  case isTrue => cases hr
  case isFalse =>
    cases hcaller with
    | raised h =>
      rw [h]
      exact (Option.some.inj hr).symm
    | @reading values h =>
      simp only [Option.ite_none_right_eq_some, Option.some.injEq] at hr
      obtain ⟨hlength, rfl⟩ := hr
      -- Every slot has been read, so the values are those of all jobs.
      rw [hlength, ← hslots.length_eq, List.take_length] at h
      exact h.symm

end Safety

/-! ### Some order of steps completes -/

section Completion

variable {m : Machine ι (Except ε β)} {f : ι → Except ε β} {workers : ℕ}

/-- The jobs in the queue can be given up after an exception. -/
theorem steps_cancel (m : Machine ι (Except ε β)) (workers : ℕ) (e : ε) (rest : List ι)
    (before : List (Slot ι m.State (Except ε β))) :
    ReflTransGen (PoolStep m workers) ⟨before ++ rest.map .queued, .raised e⟩
      ⟨before ++ rest.map fun _ => .cancelled, .raised e⟩ := by
  induction rest generalizing before with
  | nil => exact .refl
  | cons a rest ih =>
    have hrest := ih (before ++ [.cancelled])
    simp only [List.append_assoc, List.singleton_append] at hrest
    exact .head .cancel hrest

/-- From a state in which the first jobs are finished and read, and the others wait, the pool can
complete: one worker runs the jobs one after the other, and the caller reads each result. -/
theorem exists_steps_pool (h : m.Computes f) (hworkers : 0 < workers) (rest : List ι)
    (values : List β) :
    ∃ p : Pool ι ε β m.State, ReflTransGen (PoolStep m workers)
      ⟨(values.map fun b => .finished (.ok b)) ++ rest.map .queued, .reading values⟩ p ∧
        p.result? = some ((rest.mapM f).map fun more => values ++ more) := by
  induction rest generalizing values with
  | nil =>
    refine ⟨_, .refl, ?_⟩
    simp [Pool.result?, Slot.isQueued, Slot.isRunning, Except.map, pure, Except.pure]
  | cons a rest ih =>
    obtain ⟨s, hs, hr⟩ := (h a (f a)).mpr rfl
    let before : List (Slot ι m.State (Except ε β)) := values.map fun b => .finished (.ok b)
    have htake : PoolStep m workers ⟨before ++ (a :: rest).map .queued, .reading values⟩
        ⟨before ++ .running (m.start a) :: rest.map .queued, .reading values⟩ := by
      refine .take ?_ ?_
      · simp [before, Slot.isQueued]
      · simpa [before, List.countP_map, Function.comp_def, Slot.isRunning] using hworkers
    have hwork := hs.inside (r := PoolStep m workers)
      (fun t => ⟨before ++ .running t :: rest.map .queued, .reading values⟩) fun _ _ => .work
    have hfinish : ReflTransGen (PoolStep m workers)
        ⟨before ++ (a :: rest).map .queued, .reading values⟩
        ⟨before ++ .finished (f a) :: rest.map .queued, .reading values⟩ :=
      (ReflTransGen.head htake hwork).tail (.finish hr)
    have hslot : (before ++ .finished (f a) :: rest.map .queued)[values.length]? =
        some (.finished (f a)) := by
      simp [before]
    cases hf : f a with
    | error e =>
      rw [hf] at hfinish hslot
      have hcancel := steps_cancel m workers e rest (before ++ [.finished (.error e)])
      simp only [List.append_assoc, List.singleton_append] at hcancel
      refine ⟨_, (hfinish.tail (.raise hslot)).trans hcancel, ?_⟩
      rw [List.mapM_cons, hf]
      simp [Pool.result?, before, Slot.isQueued, Slot.isRunning, Except.map, bind, Except.bind]
    | ok b =>
      rw [hf] at hfinish hslot
      obtain ⟨p, hp, hresult⟩ := ih (values ++ [b])
      have hslots : (values ++ [b]).map (fun b => Slot.finished (.ok b)) ++ rest.map .queued =
          before ++ .finished (.ok b) :: rest.map .queued := by
        simp [before]
      rw [hslots] at hp
      refine ⟨p, (hfinish.tail (.read hslot)).trans hp, ?_⟩
      rw [hresult, map_mapM_cons_ok values hf]

end Completion

/-- A pool computes what running the jobs one after the other computes. -/
theorem Computes.pool {m : Machine ι (Except ε β)} {f : ι → Except ε β} {workers : ℕ}
    (h : m.Computes f) (hworkers : 0 < workers) :
    (m.pool workers).Computes fun jobs => jobs.mapM f := by
  refine computes_of_invariant (PoolInv m f) ?_ PoolInv.start (fun _ _ _ => PoolInv.step h)
    fun _ _ _ hp hr => hp.result?_eq hr
  intro jobs
  obtain ⟨p, hp, hresult⟩ := exists_steps_pool h hworkers jobs []
  refine ⟨p, hp, ?_⟩
  rw [show (m.pool workers).result? p = p.result? from rfl, hresult]
  cases jobs.mapM f <;> rfl

end ProseCheck.Machine
