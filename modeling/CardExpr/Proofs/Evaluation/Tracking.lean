import CardExpr.Proofs.Evaluation.Compositional

/-! The answers to the variables that an evaluation reads decide the whole of its outcome. -/

namespace CardExpr

/-- Both resolvers give the same answer for every name that was read. -/
def Resolver.Agrees (first second : Resolver) (reads : List VariableRead) : Prop :=
  ∀ read ∈ reads, second read.name = first read.name

theorem Resolver.Agrees.left {first second : Resolver} {reads more : List VariableRead}
    (agrees : first.Agrees second (reads ++ more)) : first.Agrees second reads :=
  fun read member => agrees read (List.mem_append_left more member)

theorem Resolver.Agrees.right {first second : Resolver} {reads more : List VariableRead}
    (agrees : first.Agrees second (reads ++ more)) : first.Agrees second more :=
  fun read member => agrees read (List.mem_append_right reads member)

variable {α β : Type}

/-- A run over a resolver that records each of its reads with the answer's store, and that can tell
two resolvers apart only by these reads. -/
structure Tracked (run : Resolver → Run α) : Prop where
  records : ∀ r, ∀ read ∈ (run r).reads, read.scope = (r read.name).bind (·.scope)
  decides : ∀ first second, first.Agrees second (run first).reads → run second = run first

namespace Run

def stopped (m : Run α) (c : EvalError) : Run β := ⟨.error c, m.reads, m.warnings⟩

theorem bind_of_ok {m : Run α} {a : α} (ok : m.result = .ok a) (next : α → Run β) :
    m >>= next = m.followedBy (next a) := by
  show m.bind next = _
  unfold Run.bind
  rw [ok]

theorem bind_of_error {m : Run α} {c : EvalError} (failed : m.result = .error c) (next : α → Run β) :
    m >>= next = m.stopped c := by
  show m.bind next = _
  unfold Run.bind stopped
  rw [failed]

/-- Whether a rescue lets the run stand does not depend on what would stand in for it. -/
theorem rescue_stands_or_follows (m : Run α) :
    (∀ other, m.rescue other = m) ∨ ∀ other, m.rescue other = m.followedBy (other ()) := by
  unfold rescue
  cases outcome : m.result with
  | ok a => exact .inl fun _ => rfl
  | error e =>
      cases e
      case depthLimitExceeded limit => exact .inl fun _ => rfl
      all_goals exact .inr fun _ => rfl

end Run

namespace Tracked

theorem const (m : Run α) (silent : m.reads = []) : Tracked fun _ => m where
  records := by simp [silent]
  decides _ _ _ := rfl

theorem bind {m : Resolver → Run α} {next : Resolver → α → Run β} (first : Tracked m)
    (rest : ∀ a, Tracked fun r => next r a) : Tracked fun r => m r >>= next r where
  records := by
    intro r read member
    cases outcome : (m r).result with
    | error e =>
        rw [Run.bind_of_error outcome] at member
        exact first.records r read member
    | ok a =>
        rw [Run.bind_of_ok outcome] at member
        rcases List.mem_append.mp member with member | member
        · exact first.records r read member
        · exact (rest a).records r read member
  decides := by
    intro r₁ r₂ agrees
    cases outcome : (m r₁).result with
    | error e =>
        rw [Run.bind_of_error outcome] at agrees
        rw [first.decides r₁ r₂ agrees, Run.bind_of_error outcome, Run.bind_of_error outcome]
    | ok a =>
        rw [Run.bind_of_ok outcome] at agrees
        have same := first.decides r₁ r₂ agrees.left
        have further : next r₂ a = next r₁ a := (rest a).decides r₁ r₂ agrees.right
        rw [same, Run.bind_of_ok outcome, Run.bind_of_ok outcome, further]

theorem rescue {m other : Resolver → Run α} (first : Tracked m) (second : Tracked other) :
    Tracked fun r => (m r).rescue fun _ => other r where
  records := by
    intro r read member
    rcases Run.rescue_stands_or_follows (m r) with stands | follows
    · rw [stands] at member
      exact first.records r read member
    · rw [follows] at member
      rcases List.mem_append.mp member with member | member
      · exact first.records r read member
      · exact second.records r read member
  decides := by
    intro r₁ r₂ agrees
    rcases Run.rescue_stands_or_follows (m r₁) with stands | follows
    · rw [stands] at agrees
      rw [first.decides r₁ r₂ agrees, stands, stands]
    · rw [follows] at agrees
      have same := first.decides r₁ r₂ agrees.left
      have further := second.decides r₁ r₂ agrees.right
      rw [same, follows, follows, further]

end Tracked

theorem readVariable_tracked (s : Setting) (name : String) :
    Tracked fun r => readVariable (s.over r) name where
  records := by
    intro r read member
    rw [List.mem_singleton.mp member]
    rfl
  decides := by
    intro r₁ r₂ agrees
    have same : r₂ name = r₁ name := agrees _ (List.mem_singleton.mpr rfl)
    simp only [readVariable, Setting.over, same]

theorem tracked_compositional : Compositional fun _ run => Tracked run where
  const := Tracked.const
  lookUp := readVariable_tracked
  bind := Tracked.bind
  rescue := Tracked.rescue

theorem mem_ofReads (reads : List VariableRead) (read : VariableRead) :
    read ∈ ReadSet.ofReads reads ↔ read ∈ reads :=
  mem_orderedSet VariableRead.before reads read

/-- A read-set names the store of each answer. -/
theorem scope_of_mem_reads (s : Setting) (e : Expression) (read : VariableRead)
    (member : read ∈ (evaluate s e).reads) : read.scope = (s.resolve read.name).bind (·.scope) := by
  unfold evaluate at member
  cases meaning : e.meaning with
  | constant v =>
      rw [meaning] at member
      exact absurd member List.not_mem_nil
  | tree expr =>
      rw [meaning] at member
      have inRun := (mem_ofReads _ read).mp member
      exact (tracked_compositional.eval s.config.maxDepth s expr).records s.resolve read inRun

/-- An evaluation under a resolver that agrees on the read-set has the same outcome as a whole. -/
theorem evaluate_over_eq (s : Setting) (r : Resolver) (e : Expression)
    (agrees : s.resolve.Agrees r (evaluate s e).reads) : evaluate (s.over r) e = evaluate s e := by
  unfold evaluate at agrees ⊢
  cases meaning : e.meaning with
  | constant v => rfl
  | tree expr =>
      rw [meaning] at agrees
      have same : eval s.config.maxDepth (s.over r) expr = eval s.config.maxDepth s expr :=
        (tracked_compositional.eval s.config.maxDepth s expr).decides s.resolve r
          fun read member => agrees read ((mem_ofReads _ read).mpr member)
      simp only [Setting.over] at same
      simp only [Setting.over, same]

end CardExpr
