import VariantIter.Session

/-!
Settings that a session shares.

The shared settings are loaded when they are first asked for, and kept. Main statement: whatever happens to files
and variables, and whatever else is loaded or saved, a session answers with the settings that were shared last;
or, if none were since the start or since they were forgotten, with those of the first time that loading them
succeeded. A time that it fails leaves nothing behind, and they are loaded again when they are next asked for.
-/

namespace VariantIter.Session

/-! ## Steps -/

/-- What can happen in a session. -/
inductive Step where
  /-- The shared settings are asked for. -/
  | get
  /-- Settings are shared. -/
  | set (settings : Settings)
  /-- The shared settings are forgotten. -/
  | forget
  | load (path : Option Text)
  | save (settings : Settings)
  /-- Files, variables or anything else outside of the session changes. -/
  | outside (change : World → World)

/-- Neither sharing nor forgetting. -/
def Step.Quiet : Step → Prop
  | .set _ => False
  | .forget => False
  | _ => True

/-- The session after a step, which may have ended in a fault. -/
def take (session : Session) : Step → Session
  | .get => session.getShared.2
  | .set settings => { session with current := .own settings }.share
  | .forget => session.unshare
  | .load path => (session.load path).2
  | .save settings => { session with current := .own settings }.save.2
  | .outside change => { session with world := change session.world }

/-- The session after steps. -/
def run (session : Session) (steps : List Step) : Session :=
  steps.foldl take session

/-- What the session answers whenever the shared settings are asked for. -/
def answers (session : Session) : List Step → List (Except Fault Settings)
  | [] => []
  | .get :: steps => session.getShared.1 :: answers session.getShared.2 steps
  | step :: steps => answers (session.take step) steps

theorem run_append (session : Session) (steps later : List Step) :
    session.run (steps ++ later) = (session.run steps).run later :=
  List.foldl_append

/-! ## One step -/

/-- Shared settings are answered as they are. -/
theorem getShared_of_some {session : Session} {settings : Settings} (held : session.shared = some settings) :
    session.getShared = (.ok settings, session) := by
  unfold getShared
  rw [held]

/-- Without shared settings, the answer is how loading them ends, and they are shared if it succeeds. -/
theorem getShared_of_none {session : Session} (free : session.shared = none) :
    session.getShared.1 = (Settings.load none session.world).1 ∧
    session.getShared.2.shared = (Settings.load none session.world).1.toOption := by
  unfold getShared act
  rw [free]
  cases Settings.load none session.world with
  | mk outcome after =>
    cases outcome with
    | ok settings => exact ⟨rfl, rfl⟩
    | error fault => exact ⟨rfl, rfl⟩

/-- Nothing but asking for them, sharing and forgetting touches the shared settings. -/
theorem shared_take {session : Session} {step : Step} (quiet : step.Quiet) (other : step ≠ .get) :
    (session.take step).shared = session.shared := by
  cases step with
  | get => exact absurd rfl other
  | set settings => exact absurd quiet id
  | forget => exact absurd quiet id
  | load path =>
    show (session.load path).2.shared = session.shared
    unfold load act
    cases Settings.load path session.world with
    | mk outcome after =>
      cases outcome with
      | ok settings => rfl
      | error fault => rfl
  | save settings => rfl
  | outside change => rfl

theorem answers_cons {session : Session} {step : Step} (other : step ≠ .get) (steps : List Step) :
    session.answers (step :: steps) = (session.take step).answers steps := by
  cases step with
  | get => exact absurd rfl other
  | _ => rfl

/-! ## Many steps -/

/-- Settings that are shared stay so through quiet steps, and every answer is theirs. -/
theorem answers_of_some {session : Session} {settings : Settings} {steps : List Step}
    (held : session.shared = some settings) (quiet : ∀ step ∈ steps, step.Quiet) :
    ∀ answer ∈ session.answers steps, answer = .ok settings := by
  induction steps generalizing session with
  | nil => exact List.forall_mem_nil _
  | cons step steps ih =>
    obtain ⟨first, others⟩ := List.forall_mem_cons.mp quiet
    by_cases asked : step = .get
    · subst asked
      rw [answers, getShared_of_some held]
      exact List.forall_mem_cons.mpr ⟨rfl, ih held others⟩
    · rw [answers_cons asked]
      exact ih ((shared_take first asked).trans held) others

/-- As long as every answer is a fault, nothing is shared. -/
theorem shared_of_faults {session : Session} {steps : List Step} (free : session.shared = none)
    (quiet : ∀ step ∈ steps, step.Quiet)
    (failed : ∀ answer ∈ session.answers steps, ∃ fault, answer = .error fault) :
    (session.run steps).shared = none := by
  induction steps generalizing session with
  | nil => exact free
  | cons step steps ih =>
    obtain ⟨first, others⟩ := List.forall_mem_cons.mp quiet
    show ((session.take step).run steps).shared = none
    by_cases asked : step = .get
    · subst asked
      rw [answers] at failed
      obtain ⟨⟨fault, refused⟩, failed⟩ := List.forall_mem_cons.mp failed
      obtain ⟨answered, after⟩ := getShared_of_none free
      rw [← answered, refused] at after
      exact ih after others failed
    · rw [answers_cons asked] at failed
      exact ih ((shared_take first asked).trans free) others failed

/-- Since they were last shared, a session answers with the settings that were shared. Since the start, or since
they were forgotten, it loads them in the surroundings of the moment until that succeeds; a fault leaves
nothing shared, and once it has succeeded the answer stays the same. -/
theorem getShared_history {session : Session} (fresh : session.shared = none) (before : List Step)
    {since : List Step} (quiet : ∀ step ∈ since, step.Quiet) :
    (∀ earlier settings, before = earlier ++ [.set settings] →
      ∀ answer ∈ (session.run before).answers since, answer = .ok settings) ∧
    ((before = [] ∨ ∃ earlier, before = earlier ++ [.forget]) →
      ∀ first later here, since = first ++ .get :: later → here = session.run (before ++ first) →
        (∀ answer ∈ (session.run before).answers first, ∃ fault, answer = .error fault) →
        here.getShared.1 = (Settings.load none here.world).1 ∧
        (∀ fault, here.getShared.1 = .error fault → here.getShared.2.shared = none) ∧
        ∀ settings, here.getShared.1 = .ok settings →
          ∀ answer ∈ here.getShared.2.answers later, answer = .ok settings) := by
  constructor
  · rintro earlier settings rfl
    refine answers_of_some ?_ quiet
    rw [run_append]
    rfl
  · rintro start first later here rfl rfl failed
    obtain ⟨early, asked⟩ := List.forall_mem_append.mp quiet
    obtain ⟨_, late⟩ := List.forall_mem_cons.mp asked
    have free : (session.run before).shared = none := by
      rcases start with rfl | ⟨earlier, rfl⟩
      · exact fresh
      · rw [run_append]
        rfl
    have still := shared_of_faults free early failed
    rw [← run_append] at still
    obtain ⟨answered, after⟩ := getShared_of_none still
    rw [← answered] at after
    refine ⟨answered, ?_, ?_⟩
    · intro fault refused
      rw [after, refused]
      rfl
    · intro settings accepted
      refine answers_of_some ?_ late
      rw [after, accepted]
      rfl

/-- A session in which a variable names no target. -/
def misdirected : Session where
  world := { environment := [("ENUMERANT_TARGET", "cobol")] }

/-- The variable for the target changes. -/
def aim (target : Option Text) : Step :=
  .outside fun world => world.setVariable "ENUMERANT_TARGET" target

/-- The settings of a directory without a file for them. -/
def unwritten : Settings where
  file := ⟨[Path.slash], [Settings.lastFileName]⟩

/-- Loading fails, succeeds once the variable is gone, and is not done again for another target. Before that,
settings that were shared were answered all along. -/
theorem getShared_history_misdirected :
    (∀ answer ∈ (misdirected.run [.set unwritten]).answers [.get, aim (some "python"), .get],
      answer = .ok unwritten) ∧
    ∃ here fault,
      misdirected.run [.set unwritten, .forget, .get, aim none] = here ∧
      (misdirected.run [.set unwritten, .forget]).answers [.get, aim none] = [.error fault] ∧
      here.getShared.1 = .ok unwritten ∧
      ∀ answer ∈ here.getShared.2.answers [aim (some "python"), .load none, .get], answer = .ok unwritten := by
  have shared := @getShared_history misdirected rfl [.set unwritten]
    [.get, aim (some "python"), .get] (by simp [Step.Quiet, aim])
  have forgotten := @getShared_history misdirected rfl [.set unwritten, .forget]
    [.get, aim none, .get, aim (some "python"), .load none, .get] (by simp [Step.Quiet, aim])
  have refused : ∃ fault, (misdirected.run [.set unwritten, .forget]).answers [.get, aim none] = [.error fault] :=
    ⟨_, rfl⟩
  obtain ⟨fault, refused⟩ := refused
  have loaded : (misdirected.run [.set unwritten, .forget, .get, aim none]).getShared.1 = .ok unwritten := rfl
  obtain ⟨_, _, kept⟩ := forgotten.2 (.inr ⟨[.set unwritten], rfl⟩) [.get, aim none]
    [aim (some "python"), .load none, .get] _ rfl rfl (by simp [refused])
  exact ⟨shared.1 [] unwritten rfl, _, fault, rfl, refused, loaded, kept unwritten loaded⟩

end VariantIter.Session
