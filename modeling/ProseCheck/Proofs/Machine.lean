import Mathlib.Data.Sum.Basic
import Mathlib.Logic.Relation

/-!
# Machines

A machine computes a result in steps, and several steps may be possible at a time. What it computes
is a function if every order of steps that completes ends with the same result, and some order
completes. Machines are made from functions and from each other: with an input or a result that is
converted, with a step in front that may fail, and over a list of jobs one after the other.
-/

namespace ProseCheck

/-- Something that is computed in steps: its states, the state in which it starts on an input, the
steps between states, and the result in a state that is final. -/
structure Machine (ι ρ : Type) where
  State : Type
  start : ι → State
  Step : State → State → Prop
  result? : State → Option ρ

namespace Machine

open Relation (ReflTransGen)

variable {ι κ ρ ρ' ε β : Type}

/-- Some order of steps leads from the start on the input `a` to the state `s`. -/
def Reaches (m : Machine ι ρ) (a : ι) (s : m.State) : Prop :=
  ReflTransGen m.Step (m.start a) s

/-- Some order of steps on the input `a` completes with the result `r`. -/
def Gives (m : Machine ι ρ) (a : ι) (r : ρ) : Prop :=
  ∃ s, m.Reaches a s ∧ m.result? s = some r

/-- The machine computes a function: its steps can be made so that it completes, and in whatever
order they are made, it completes with the value of the function. -/
def Computes (m : Machine ι ρ) (f : ι → ρ) : Prop :=
  ∀ a r, m.Gives a r ↔ r = f a

/-- The state at the start is reached without a step. -/
theorem reaches_start (m : Machine ι ρ) (a : ι) : m.Reaches a (m.start a) :=
  ReflTransGen.refl

/-- What holds at the start and is kept by every step holds in every state that is reached. -/
theorem Reaches.invariant {m : Machine ι ρ} {a : ι} {Inv : m.State → Prop}
    (hstart : Inv (m.start a)) (hstep : ∀ s s', Inv s → m.Step s s' → Inv s') {s : m.State}
    (hs : m.Reaches a s) : Inv s := by
  induction hs with
  | refl => exact hstart
  | tail _ h ih => exact hstep _ _ ih h

/-- The steps to a state can be made inside of something else that allows them. -/
theorem Reaches.inside {σ : Type} {r : σ → σ → Prop} {m : Machine ι ρ} {a : ι} {s : m.State}
    (hs : m.Reaches a s) (g : m.State → σ) (hstep : ∀ s s', m.Step s s' → r (g s) (g s')) :
    ReflTransGen r (g (m.start a)) (g s) :=
  ReflTransGen.lift g hstep _ _ hs

/-- A machine computes a function if it can complete with its value, and an invariant allows no
other result. -/
theorem computes_of_invariant {m : Machine ι ρ} {f : ι → ρ} (Inv : ι → m.State → Prop)
    (hgives : ∀ a, m.Gives a (f a)) (hstart : ∀ a, Inv a (m.start a))
    (hstep : ∀ a s s', Inv a s → m.Step s s' → Inv a s')
    (hresult : ∀ a s r, Inv a s → m.result? s = some r → r = f a) : m.Computes f := by
  intro a r
  constructor
  · rintro ⟨s, hs, hr⟩
    exact hresult a s r (hs.invariant (hstart a) (hstep a)) hr
  · rintro rfl
    exact hgives a

/-! ### Machines made from others -/

/-- The machine that makes one step to the value of a function. -/
def ofFunction (f : ι → ρ) : Machine ι ρ where
  State := ι ⊕ ρ
  start := .inl
  Step := fun s s' => ∃ a, s = .inl a ∧ s' = .inr (f a)
  result? := Sum.getRight?

/-- The machine of a function computes it. -/
theorem computes_ofFunction (f : ι → ρ) : (ofFunction f).Computes f := by
  refine computes_of_invariant (fun a s => s = .inl a ∨ s = .inr (f a)) ?_ ?_ ?_ ?_
  · intro a
    exact ⟨.inr (f a), .single ⟨a, rfl, rfl⟩, rfl⟩
  · intro a
    exact .inl rfl
  · rintro a s s' hs ⟨b, rfl, rfl⟩
    rcases hs with hs | hs
    · rw [Sum.inl.inj hs]
      exact .inr rfl
    · cases hs
  · rintro a s r (rfl | rfl) hr
    · cases hr
    · exact (Option.some.inj hr).symm

/-- The machine on inputs that are made from others. -/
def comap (g : κ → ι) (m : Machine ι ρ) : Machine κ ρ where
  State := m.State
  start := fun a => m.start (g a)
  Step := m.Step
  result? := m.result?

/-- A machine on a translated input computes the function of the translation. -/
theorem Computes.comap {m : Machine ι ρ} {f : ι → ρ} (h : m.Computes f) (g : κ → ι) :
    (m.comap g).Computes fun a => f (g a) :=
  fun a r => h (g a) r

/-- The machine with a result that is made from its input and its own result. -/
def map (g : ι → ρ → ρ') (m : Machine ι ρ) : Machine ι ρ' where
  State := ι × m.State
  start := fun a => (a, m.start a)
  Step := fun s s' => s.1 = s'.1 ∧ m.Step s.2 s'.2
  result? := fun s => (m.result? s.2).map (g s.1)

/-- A machine with a translated result computes the translation of its function. -/
theorem Computes.map {m : Machine ι ρ} {f : ι → ρ} (h : m.Computes f) (g : ι → ρ → ρ') :
    (m.map g).Computes fun a => g a (f a) := by
  refine computes_of_invariant (fun a s => s.1 = a ∧ m.Reaches a s.2) ?_ ?_ ?_ ?_
  · intro a
    obtain ⟨s, hs, hr⟩ := (h a (f a)).mpr rfl
    refine ⟨(a, s), hs.inside (fun t => (a, t)) fun _ _ hstep => ⟨rfl, hstep⟩, ?_⟩
    exact Option.map_eq_some_iff.mpr ⟨f a, hr, rfl⟩
  · intro a
    exact ⟨rfl, .refl⟩
  · rintro a s s' ⟨ha, hs⟩ ⟨hinput, hstep⟩
    exact ⟨hinput.symm.trans ha, hs.tail hstep⟩
  · rintro a ⟨b, s⟩ r' ⟨rfl, hs⟩ hr'
    obtain ⟨r, hr, rfl⟩ := Option.map_eq_some_iff.mp hr'
    rw [(h b r).mp ⟨s, hs, hr⟩]

/-- The first machine on some inputs, and the second one on the others. -/
def choose (first : ι → Bool) (m m' : Machine ι ρ) : Machine ι ρ where
  State := m.State ⊕ m'.State
  start := fun a => if first a then .inl (m.start a) else .inr (m'.start a)
  Step := Sum.LiftRel m.Step m'.Step
  result? := Sum.elim m.result? m'.result?

/-- A choice between machines computes what the chosen machine computes on each input. -/
theorem computes_choose {first : ι → Bool} {m m' : Machine ι ρ} {f : ι → ρ}
    (h : ∀ a, first a = true → ∀ r, m.Gives a r ↔ r = f a)
    (h' : ∀ a, first a = false → ∀ r, m'.Gives a r ↔ r = f a) :
    (choose first m m').Computes f := by
  let Inv (a : ι) : m.State ⊕ m'.State → Prop := Sum.elim
    (fun t => first a = true ∧ m.Reaches a t) (fun t => first a = false ∧ m'.Reaches a t)
  refine computes_of_invariant Inv ?_ ?_ ?_ ?_
  · intro a
    cases hfirst : first a with
    | true =>
      obtain ⟨s, hs, hr⟩ := (h a hfirst (f a)).mpr rfl
      refine ⟨.inl s, ?_, hr⟩
      have hsteps := hs.inside (r := Sum.LiftRel m.Step m'.Step) Sum.inl fun _ _ => .inl
      simpa [Reaches, choose, hfirst] using hsteps
    | false =>
      obtain ⟨s, hs, hr⟩ := (h' a hfirst (f a)).mpr rfl
      refine ⟨.inr s, ?_, hr⟩
      have hsteps := hs.inside (r := Sum.LiftRel m.Step m'.Step) Sum.inr fun _ _ => .inr
      simpa [Reaches, choose, hfirst] using hsteps
  · intro a
    cases hfirst : first a with
    | true => simpa [Inv, choose, hfirst] using m.reaches_start a
    | false => simpa [Inv, choose, hfirst] using m'.reaches_start a
  · rintro a s s' hs hstep
    cases hstep with
    | inl hstep => exact ⟨hs.1, hs.2.tail hstep⟩
    | inr hstep => exact ⟨hs.1, hs.2.tail hstep⟩
  · rintro a (s | s) r ⟨hfirst, hs⟩ hr
    · exact (h a hfirst r).mp ⟨s, hs, hr⟩
    · exact (h' a hfirst r).mp ⟨s, hs, hr⟩

/-- The states of a machine that starts with a step of its own, which may fail. -/
inductive Stage (ι ε σ : Type) where
  /-- The first step is still to be made. -/
  | before (a : ι)
  /-- The first step has failed. -/
  | failed (e : ε)
  /-- The rest is under way. -/
  | after (s : σ)

/-- The steps of a machine that starts with a step of its own. -/
inductive StageStep (f : ι → Except ε κ) (m : Machine κ (Except ε β)) :
    Stage ι ε m.State → Stage ι ε m.State → Prop where
  | fail {a : ι} {e : ε} (h : f a = .error e) : StageStep f m (.before a) (.failed e)
  | enter {a : ι} {b : κ} (h : f a = .ok b) : StageStep f m (.before a) (.after (m.start b))
  | work {s s' : m.State} (h : m.Step s s') : StageStep f m (.after s) (.after s')

/-- The machine that makes one step to the value of a function, and goes on with it if it is no
exception. -/
def andThen (f : ι → Except ε κ) (m : Machine κ (Except ε β)) : Machine ι (Except ε β) where
  State := Stage ι ε m.State
  start := .before
  Step := StageStep f m
  result?
    | .before _ => none
    | .failed e => some (.error e)
    | .after s => m.result? s

/-- What holds in every state of a machine that starts with a step of its own. -/
inductive StageInv (f : ι → Except ε κ) (m : Machine κ (Except ε β)) (a : ι) :
    Stage ι ε m.State → Prop where
  | before : StageInv f m a (.before a)
  | failed {e : ε} (h : f a = .error e) : StageInv f m a (.failed e)
  | after {b : κ} {s : m.State} (h : f a = .ok b) (hs : m.Reaches b s) : StageInv f m a (.after s)

/-- A machine after a step that may fail computes the one after the other. -/
theorem Computes.andThen {m : Machine κ (Except ε β)} {g : κ → Except ε β} (h : m.Computes g)
    (f : ι → Except ε κ) : (m.andThen f).Computes fun a => (f a).bind g := by
  refine computes_of_invariant (StageInv f m) ?_ (fun _ => .before) ?_ ?_
  · intro a
    cases hf : f a with
    | error e => exact ⟨.failed e, .single (.fail hf), rfl⟩
    | ok b =>
      obtain ⟨s, hs, hr⟩ := (h b (g b)).mpr rfl
      exact ⟨.after s, .head (.enter hf) (hs.inside Stage.after fun _ _ => .work), hr⟩
  · rintro a s s' hs hstep
    cases hstep with
    | fail hf =>
      cases hs with
      | before => exact .failed hf
    | enter hf =>
      cases hs with
      | before => exact .after hf (m.reaches_start _)
    | work hwork =>
      cases hs with
      | after hf hs => exact .after hf (hs.tail hwork)
  · rintro a s r hs hr
    cases hs with
    | before => cases hr
    | failed hf =>
      rw [hf]
      exact (Option.some.inj hr).symm
    | after hf hs =>
      rw [hf]
      exact (h _ r).mp ⟨_, hs, hr⟩

/-! ### Jobs one after the other -/

/-- The states of running jobs one after the other: the values so far, the job under way, and the
jobs that are left. -/
inductive Turn (ι ε β σ : Type) where
  /-- No job is under way. -/
  | between (values : List β) (rest : List ι)
  /-- A job is under way. -/
  | inside (values : List β) (s : σ) (rest : List ι)
  /-- A job has raised an exception. -/
  | raised (e : ε)

/-- The steps of running jobs one after the other. -/
inductive TurnStep (m : Machine ι (Except ε β)) :
    Turn ι ε β m.State → Turn ι ε β m.State → Prop where
  | enter {values : List β} {a : ι} {rest : List ι} :
      TurnStep m (.between values (a :: rest)) (.inside values (m.start a) rest)
  | work {values : List β} {s s' : m.State} {rest : List ι} (h : m.Step s s') :
      TurnStep m (.inside values s rest) (.inside values s' rest)
  | leave {values : List β} {s : m.State} {rest : List ι} {b : β}
      (h : m.result? s = some (.ok b)) :
      TurnStep m (.inside values s rest) (.between (values ++ [b]) rest)
  | raise {values : List β} {s : m.State} {rest : List ι} {e : ε}
      (h : m.result? s = some (.error e)) : TurnStep m (.inside values s rest) (.raised e)

/-- The machine that runs another one on jobs one after the other, up to the first exception. -/
def inTurn (m : Machine ι (Except ε β)) : Machine (List ι) (Except ε (List β)) where
  State := Turn ι ε β m.State
  start := .between []
  Step := TurnStep m
  result?
    | .between values [] => some (.ok values)
    | .raised e => some (.error e)
    | _ => none

/-- What holds in every state of running jobs one after the other. -/
inductive TurnInv (m : Machine ι (Except ε β)) (f : ι → Except ε β) (jobs : List ι) :
    Turn ι ε β m.State → Prop where
  | between {done rest : List ι} {values : List β} (hjobs : jobs = done ++ rest)
      (hdone : done.mapM f = .ok values) : TurnInv m f jobs (.between values rest)
  | inside {done rest : List ι} {a : ι} {values : List β} {s : m.State}
      (hjobs : jobs = done ++ a :: rest) (hdone : done.mapM f = .ok values)
      (hs : m.Reaches a s) : TurnInv m f jobs (.inside values s rest)
  | raised {e : ε} (h : jobs.mapM f = .error e) : TurnInv m f jobs (.raised e)

/-- A job after jobs that have values adds its value to theirs. -/
theorem mapM_append_ok {f : ι → Except ε β} {done : List ι} {a : ι} {values : List β}
    {b : β} (hdone : done.mapM f = .ok values) (ha : f a = .ok b) :
    (done ++ [a]).mapM f = .ok (values ++ [b]) := by
  rw [List.mapM_append, hdone, List.mapM_cons, ha]
  rfl

/-- A job after jobs that have values makes the whole fail if it raises an exception. -/
theorem mapM_append_error {f : ι → Except ε β} {done rest : List ι} {a : ι}
    {values : List β} {e : ε} (hdone : done.mapM f = .ok values) (ha : f a = .error e) :
    (done ++ a :: rest).mapM f = .error e := by
  rw [List.mapM_append, hdone, List.mapM_cons, ha]
  rfl

/-- The values of the jobs after a job that has a value come after this value. -/
theorem map_mapM_cons_ok {f : ι → Except ε β} {rest : List ι} {a : ι} {b : β}
    (values : List β) (hb : f a = .ok b) :
    ((a :: rest).mapM f).map (fun more => values ++ more) =
      (rest.mapM f).map fun more => values ++ [b] ++ more := by
  rw [List.mapM_cons, hb]
  cases rest.mapM f with
  | error e => rfl
  | ok more => simp [Except.map, bind, Except.bind, pure, Except.pure]

/-- From any state between two jobs the jobs that are left can be run. -/
theorem exists_steps_between {m : Machine ι (Except ε β)} {f : ι → Except ε β}
    (h : m.Computes f) (rest : List ι) (values : List β) :
    ∃ t, ReflTransGen (TurnStep m) (.between values rest) t ∧
      m.inTurn.result? t = some ((rest.mapM f).map fun more => values ++ more) := by
  induction rest generalizing values with
  | nil => exact ⟨_, .refl, by simp [inTurn, Except.map, pure, Except.pure]⟩
  | cons a rest ih =>
    obtain ⟨s, hs, hr⟩ := (h a (f a)).mpr rfl
    have hinside : ReflTransGen (TurnStep m) (.between values (a :: rest))
        (.inside values s rest) :=
      .head .enter (hs.inside (fun t => Turn.inside values t rest) fun _ _ => .work)
    cases hf : f a with
    | error e =>
      refine ⟨.raised e, hinside.tail (.raise (by rw [hr, hf])), ?_⟩
      rw [List.mapM_cons, hf]
      rfl
    | ok b =>
      obtain ⟨t, ht, hresult⟩ := ih (values ++ [b])
      refine ⟨t, (hinside.tail (.leave (by rw [hr, hf]))).trans ht, ?_⟩
      rw [hresult, map_mapM_cons_ok values hf]

/-- Jobs in turn are computed up to the first one that fails. -/
theorem Computes.inTurn {m : Machine ι (Except ε β)} {f : ι → Except ε β} (h : m.Computes f) :
    m.inTurn.Computes fun jobs => jobs.mapM f := by
  refine computes_of_invariant (TurnInv m f) ?_ ?_ ?_ ?_
  · intro jobs
    obtain ⟨t, ht, hresult⟩ := exists_steps_between h jobs []
    refine ⟨t, ht, ?_⟩
    rw [hresult]
    cases jobs.mapM f <;> rfl
  · intro jobs
    exact .between (List.nil_append jobs).symm rfl
  · rintro jobs t t' ht hstep
    cases hstep with
    | enter =>
      cases ht with
      | between hjobs hdone => exact .inside hjobs hdone (m.reaches_start _)
    | work hwork =>
      cases ht with
      | inside hjobs hdone hs => exact .inside hjobs hdone (hs.tail hwork)
    | leave hr =>
      cases ht with
      | @inside _ _ a _ _ hjobs hdone hs =>
        have hvalue := (h a _).mp ⟨_, hs, hr⟩
        exact .between (by simp [hjobs]) (mapM_append_ok hdone hvalue.symm)
    | raise hr =>
      cases ht with
      | @inside _ _ a _ _ hjobs hdone hs =>
        have hvalue := (h a _).mp ⟨_, hs, hr⟩
        exact .raised (hjobs ▸ mapM_append_error hdone hvalue.symm)
  · rintro jobs t r ht hr
    cases ht with
    | @between done rest values hjobs hdone =>
      cases rest with
      | nil =>
        rw [hjobs, List.append_nil, hdone]
        exact (Option.some.inj hr).symm
      | cons a rest => cases hr
    | inside => cases hr
    | raised hraised =>
      rw [hraised]
      exact (Option.some.inj hr).symm

end Machine

end ProseCheck
