import Paic.Lib.Interleave
import Paic.Remediation.ApprovalChain
import Paic.Remediation.ExecutorLaws
import Paic.Remediation.SampleStore

/-!
# Rejections beside an execution

One `execute` and any number of `append`s take their steps in any order, each
under its locks. A rejection that is appended before the execution has
evaluated the approvals vetoes it. One that is appended between that and the
replacement of `current.json` comes too late.
-/

namespace Paic.Remediation

open Checks (bind_eq_ok)
open Prog (Step Bounded Before Awaits)

section
variable {T : Type} [RemediationText T] [Hashing]

/-- `ApprovalLedger.append` -/
def appendDecision (decision : ApprovalDecision) : Prog Error (World T) ApprovalLedgerRecord :=
  withApprovalLock do
    let records ← Prog.read fun w => w.ledger.validate
    let record ← Prog.ofExcept (nextRecord records decision)
    Prog.modify fun w => { w with ledger := ⟨w.ledger.lines ++ [TextCodec.dump record]⟩ }
    Prog.touch
    pure record

/-- A rejection of the plan. -/
def ApprovalDecision.Rejects (decision : ApprovalDecision) (plan : RemediationPlan) : Prop :=
  decision.planSha256 = plan.planSha256 ∧ decision.decision = .reject

-- ---------------------------------------------------------------------------
-- The system
-- ---------------------------------------------------------------------------

/-- The execution and the appends, each with what is left of it. `evaluated` says
that the execution has taken the approval lock, and `replaced` that it has
replaced `current.json`. -/
structure System (T : Type) where
  world : World T
  execution : Prog Error (World T) (String × ExecutionReceipt)
  appends : List (ApprovalDecision × Prog Error (World T) ApprovalLedgerRecord)
  evaluated : Prop
  replaced : Prop

variable [TokenFormat]

/-- Before the first step. -/
def System.start (world : World T) (call : ExecuteCall) (decisions : List ApprovalDecision) :
    System T :=
  { world
    execution := execute call
    appends := decisions.map fun decision => (decision, appendDecision decision)
    evaluated := False
    replaced := False }

omit [TokenFormat] [RemediationText T] [Hashing]

/-- A step that takes the approval lock. -/
def TakesLock (w w' : World T) : Prop := w.approvalLock = false ∧ w'.approvalLock = true

/-- A step that replaces `current.json`. -/
def Replaces (w w' : World T) : Prop := w'.store.currentJson.file ≠ w.store.currentJson.file

inductive System.Step : System T → System T → Prop where
  | execution {s : System T} (h : Prog.Step s.execution s.world p w) :
      Step s { s with
        world := w
        execution := p
        evaluated := s.evaluated ∨ TakesLock s.world w
        replaced := s.replaced ∨ Replaces s.world w }
  | append {s : System T} (hs : s.appends = front ++ (decision, q) :: back)
      (h : Prog.Step q s.world q' w) :
      Step s { s with world := w, appends := front ++ (decision, q') :: back }

/-- The append of the decision has returned. -/
def System.Completed (s : System T) (decision : ApprovalDecision) : Prop :=
  ∃ record, (decision, .done record) ∈ s.appends

/-- Between the evaluation of the approvals and the replacement of `current.json`. -/
def System.Deciding (s : System T) : Prop :=
  s.evaluated ∧ ¬ s.replaced ∧ ∃ ready act next raised, s.execution = .step ready act next raised

/-- A step in which no rejection is completed while the execution is deciding. -/
def System.QuietStep (plan : RemediationPlan) (s s' : System T) : Prop :=
  s.Step s' ∧ (s.Deciding → ∀ decision, decision.Rejects plan → s'.Completed decision →
    s.Completed decision)

-- ---------------------------------------------------------------------------
-- A vetoed execution
-- ---------------------------------------------------------------------------

section
variable [TextCodec T ApprovalLedgerRecord]

/-- The ledger holds the decision. -/
def Recorded (decision : ApprovalDecision) (w : World T) : Prop :=
  ∃ line ∈ w.ledger.lines, ∃ record : ApprovalLedgerRecord,
    TextCodec.load line = some record ∧ record.decision = decision

/-- Later lines do not take a decision back. -/
theorem Recorded.of_lines {w w' : World T} (h : Recorded decision w)
    (hlines : w.ledger.lines <+: w'.ledger.lines) : Recorded decision w' := by
  obtain ⟨line, hline, hload⟩ := h
  exact ⟨line, hlines.subset hline, hload⟩

/-- The ledger holds a rejection of the plan. -/
def Vetoed (plan : RemediationPlan) (w : World T) : Prop :=
  ∃ decision : ApprovalDecision, decision.Rejects plan ∧ Recorded decision w

theorem Vetoed.of_lines {w w' : World T} (h : Vetoed plan w)
    (hlines : w.ledger.lines <+: w'.ledger.lines) : Vetoed plan w' := by
  obtain ⟨decision, hrejects, hrecorded⟩ := h
  exact ⟨decision, hrejects, hrecorded.of_lines hlines⟩

end

/-- An execution that is vetoed only takes and returns locks. -/
def OnlyLocks (w w' : World T) : Prop := w'.store = w.store ∧ w'.ledger = w.ledger

/-- An append adds lines, and leaves the store to the execution. -/
def AppendsOnly (w w' : World T) : Prop :=
  w'.store = w.store ∧ w.ledger.lines <+: w'.ledger.lines

variable [Hashing] [RemediationText T]

theorem Recorded.mem {w : World T} (h : Recorded decision w)
    (hrecords : w.ledger.validate = .ok records) :
    decision ∈ records.map ApprovalLedgerRecord.decision := by
  obtain ⟨line, hline, record, hload, rfl⟩ := h
  obtain ⟨records', hparsed, hrest⟩ := bind_eq_ok.mp hrecords
  obtain ⟨_, -, hpure⟩ := bind_eq_ok.mp hrest
  obtain rfl := Checks.pure_eq_ok.mp hpure
  exact List.mem_map_of_mem ((Checks.mapM_mem hparsed).mpr ⟨line, hline, Checks.need_ok.mpr hload⟩)

variable [TokenFormat]

/-- Whatever the rest of the ledger, a rejection keeps the plan from being executed. -/
theorem Vetoed.refuses {call : ExecuteCall} {w : World T} (h : Vetoed call.plan w)
    (before : BeforeState) (done : ControlState × ExecutionReceipt) :
    authorized call before w.ledger ≠ .ok done := by
  intro hauthorized
  obtain ⟨decision, hrejects, hrecorded⟩ := h
  obtain ⟨status, hstatus, hexec⟩ := bind_eq_ok.mp hauthorized
  obtain ⟨nonce, hauthorize, -⟩ := bind_eq_ok.mp hexec
  obtain ⟨-, -, -, -, -, claims, htoken, -⟩ := authorizeExecution_ok.mp hauthorize
  obtain ⟨-, -, hclaims⟩ := verifyToken_ok.mp htoken
  obtain ⟨_, haware, hrest⟩ := bind_eq_ok.mp hstatus
  obtain ⟨records, hrecords, -⟩ := bind_eq_ok.mp hrest
  have haware := not_not.mp (Checks.raiseIf_ok.mp haware)
  obtain ⟨-, hnone, -⟩ := (evaluateApproval_approved_iff hrecords haware).mp
    ⟨status, hstatus, hclaims.approved⟩
  exact hnone decision (hrecorded.mem hrecords) hrejects.2

-- ---------------------------------------------------------------------------
-- The programs
-- ---------------------------------------------------------------------------

omit [Hashing] [TokenFormat] in
theorem withApprovalLock_before {p : Prog Error (World T) α}
    (h : p.Bounded (Vetoed plan) OnlyLocks Q) :
    (withApprovalLock p).Before TakesLock OnlyLocks (Bounded (Vetoed plan) OnlyLocks Q) := by
  refine Before.await_bind (fun w _ => ⟨rfl, rfl⟩) (fun w hready => ⟨?_, rfl⟩)
    (h.ensuring (.modify fun w _ => ⟨rfl, rfl⟩))
  simpa using hready

/-- Up to its evaluation of the approvals an execution can be vetoed. -/
theorem execute_before (call : ExecuteCall) :
    (execute call : Prog Error (World T) _).Before TakesLock OnlyLocks
      (Bounded (Vetoed call.plan) OnlyLocks fun _ => True) := by
  have hnot : ∀ w : World T, ¬ TakesLock w w := fun w h => nomatch h.1.symm.trans h.2
  have hstill : ∀ w : World T, OnlyLocks w w ∧ ¬ TakesLock w w := fun w => ⟨⟨rfl, rfl⟩, hnot w⟩
  have hauthorize : ∀ before, (withApprovalLock
      (Prog.read fun w : World T => authorized call before w.ledger)).Before TakesLock OnlyLocks
        (Bounded (Vetoed call.plan) OnlyLocks fun _ => False) := by
    intro before
    refine withApprovalLock_before (.read (fun w => ⟨rfl, rfl⟩) fun w done hvetoed hok => ?_)
    exact hvetoed.refuses before done hok
  refine Before.bind (.of_bounded (.modify fun w _ => hstill w)) fun _ _ => ?_
  refine Before.bind (.of_bounded (.await fun w _ hready => ⟨⟨rfl, rfl⟩, fun h => hnot w h⟩))
    fun _ _ => Before.ensuring ?_ (.modify fun w _ => ⟨⟨rfl, rfl⟩, fun h => hnot w h⟩)
  refine Before.bind (Q := fun _ => True) (.of_bounded (.read hstill fun _ _ _ _ => trivial)) fun before _ => ?_
  exact Before.bind (hauthorize before) fun _ => False.elim

/-- An execution leaves the ledger to the appends. -/
theorem execute_ledger (call : ExecuteCall) :
    (execute call : Prog Error (World T) _).Bounded (fun _ => True)
      (fun w w' => w'.ledger = w.ledger) fun _ => True := by
  refine Bounded.bind (.modify fun _ _ => rfl) fun _ _ => ?_
  refine Bounded.bind (.await fun _ _ _ => rfl) fun _ _ => .ensuring ?_ (.modify fun _ _ => rfl)
  refine Bounded.bind (Q := fun _ => True) (.read (fun _ => rfl) fun _ _ _ _ => trivial) fun before _ => ?_
  refine Bounded.bind (Q := fun _ => True) ?_ fun done _ => .within fun _ _ _ => rfl
  refine Bounded.bind (.await fun _ _ _ => rfl) fun _ _ => .ensuring ?_ (.modify fun _ _ => rfl)
  exact .read (fun _ => rfl) fun _ _ _ _ => trivial

omit [TokenFormat]

theorem appendDecision_bounded (decision : ApprovalDecision) :
    (appendDecision decision : Prog Error (World T) _).Bounded (fun _ => True) AppendsOnly
      fun _ => True := by
  have hstill : ∀ w : World T, AppendsOnly w w := fun w => ⟨rfl, List.prefix_rfl⟩
  refine Bounded.bind (.await fun _ _ _ => ⟨rfl, List.prefix_rfl⟩) fun _ _ =>
    .ensuring ?_ (.modify fun _ _ => ⟨rfl, List.prefix_rfl⟩)
  refine Bounded.bind (Q := fun _ => True) (.read hstill fun _ _ _ _ => trivial) fun records _ => ?_
  refine Bounded.bind (Q := fun _ => True) (.ofExcept fun _ _ => trivial) fun record _ => ?_
  refine Bounded.bind (.modify fun _ _ => ⟨rfl, List.prefix_append _ _⟩) fun _ _ => ?_
  exact Bounded.bind (.modify fun w _ => hstill w) fun _ _ => trivial

/-- An append does not return before its decision is in the ledger. -/
theorem appendDecision_awaits (decision : ApprovalDecision) :
    (appendDecision decision : Prog Error (World T) _).Awaits
      (fun _ w' => Recorded decision w') fun _ => False := by
  refine Awaits.bind (.trivial _) fun _ _ => .ensuring ?_
  refine Awaits.bind (.trivial _) fun records _ => ?_
  let Fresh (record : ApprovalLedgerRecord) : Prop := record.Valid ∧ record.decision = decision
  refine Awaits.bind (Q := Fresh) (.ofExcept fun record hrecord => ?_) fun record hrecord => ?_
  · obtain ⟨-, hvalid, hdecision, -⟩ := ApprovalLedger.nextRecord_ok hrecord
    exact ⟨hvalid, hdecision⟩
  · refine Awaits.bind (Q := fun _ => False) (.modify fun w => ?_) fun _ => False.elim
    have hline : TextCodec.dump record ∈ w.ledger.lines ++ [TextCodec.dump record] :=
      List.mem_append_right _ List.mem_cons_self
    exact ⟨_, hline, record, TextCodec.load_dump hrecord.1, hrecord.2⟩

-- ---------------------------------------------------------------------------
-- Runs
-- ---------------------------------------------------------------------------

/-- What every run keeps: an execution that has not evaluated the approvals can be
vetoed, and one that a completed rejection came before is. -/
structure System.Vetting (plan : RemediationPlan) (s : System T) : Prop where
  ledger : s.execution.Bounded (fun _ => True) (fun w w' => w'.ledger = w.ledger) fun _ => True
  before : ¬ s.evaluated →
    s.execution.Before TakesLock OnlyLocks (Bounded (Vetoed plan) OnlyLocks fun _ => True)
  appends : ∀ decision q, (decision, q) ∈ s.appends →
    q.Bounded (fun _ => True) AppendsOnly (fun _ => True) ∧
      (q.Awaits (fun _ w' => Recorded decision w') (fun _ => False) ∨ Recorded decision s.world)
  vetoed : ∀ decision : ApprovalDecision, decision.Rejects plan → s.Completed decision →
    s.replaced ∨ s.execution.Bounded (Vetoed plan) OnlyLocks fun _ => True

variable {plan : RemediationPlan} {s s' : System T}

omit [Hashing] in
/-- A completed append has left its decision in the ledger. -/
theorem System.Vetting.recorded (h : s.Vetting plan) (hcompleted : s.Completed decision) :
    Recorded decision s.world := by
  obtain ⟨record, hmem⟩ := hcompleted
  exact (h.appends _ _ hmem).2.resolve_left id

theorem System.Vetting.start [TokenFormat] (world : World T) (call : ExecuteCall)
    (decisions : List ApprovalDecision) : (System.start world call decisions).Vetting call.plan where
  ledger := execute_ledger call
  before _ := execute_before call
  appends decision q hmem := by
    obtain ⟨d, -, heq⟩ := List.mem_map.mp hmem
    obtain ⟨rfl, rfl⟩ := Prod.mk.inj heq
    exact ⟨appendDecision_bounded d, .inl (appendDecision_awaits d)⟩
  vetoed decision _ hcompleted := .inr (execute_before call).holds

omit [Hashing] in
theorem System.Vetting.bounded_of_not_deciding (h : s.Vetting plan) (hnot : ¬ s.Deciding) :
    s.replaced ∨ s.execution.Bounded (Vetoed plan) OnlyLocks fun _ => True := by
  by_cases hevaluated : s.evaluated
  · by_cases hreplaced : s.replaced
    · exact .inl hreplaced
    · right
      cases hexecution : s.execution with
      | done a => trivial
      | raise e => trivial
      | step ready act next raised =>
        exact absurd ⟨hevaluated, hreplaced, _, _, _, _, hexecution⟩ hnot
  · exact .inr (h.before hevaluated).holds

omit [Hashing] in
theorem System.Vetting.step (h : s.Vetting plan) (hstep : s.QuietStep plan s') :
    s'.Vetting plan := by
  obtain ⟨hstep, hquiet⟩ := hstep
  cases hstep with
  | @execution p w _ hp =>
    have hledger : w.ledger = s.world.ledger := by
      rcases (h.ledger.of_step trivial hp).2 with rfl | hledger
      · rfl
      · exact hledger
    refine ⟨(h.ledger.of_step trivial hp).1, fun hnot => ?_, fun decision q hmem => ?_, ?_⟩
    · obtain ⟨hbefore, hlock⟩ := not_or.mp hnot
      exact ((h.before hbefore).of_step hp).2.2 hlock
    · refine ⟨(h.appends decision q hmem).1, (h.appends decision q hmem).2.imp_right ?_⟩
      exact fun hrecorded => hrecorded.of_lines (by rw [hledger])
    · intro decision hrejects hcompleted
      rcases h.vetoed decision hrejects hcompleted with hreplaced | hbounded
      · exact .inl (.inl hreplaced)
      · exact .inr (hbounded.of_step ⟨decision, hrejects, h.recorded hcompleted⟩ hp).1
  | @append front decision q back q' w _ hs hq =>
    have hmem : (decision, q) ∈ s.appends := hs ▸ List.mem_append_right _ List.mem_cons_self
    obtain ⟨hbounded, hawaits⟩ := h.appends decision q hmem
    have hgrows : s.world.ledger.lines <+: w.ledger.lines := by
      rcases (hbounded.of_step trivial hq).2 with rfl | hgrows
      · exact List.prefix_rfl
      · exact hgrows.2
    refine ⟨h.ledger, h.before, fun d r hr => ?_, fun d hrejects hcompleted => ?_⟩
    · have hother : (d, r) ∈ s.appends → r.Bounded (fun _ => True) AppendsOnly (fun _ => True) ∧
          (r.Awaits (fun _ w' => Recorded d w') (fun _ => False) ∨ Recorded d w) := fun hr =>
        ⟨(h.appends d r hr).1, (h.appends d r hr).2.imp_right fun hd => hd.of_lines hgrows⟩
      rcases List.mem_append.mp hr with hr | hr
      · exact hother (hs ▸ List.mem_append_left _ hr)
      · rcases List.mem_cons.mp hr with heq | hr
        · obtain ⟨rfl, rfl⟩ := Prod.mk.inj heq
          refine ⟨(hbounded.of_step trivial hq).1, ?_⟩
          rcases hawaits with hawaits | hrecorded
          · exact (hawaits.of_step hq).symm
          · exact .inr (hrecorded.of_lines hgrows)
        · exact hother (hs ▸ List.mem_append_right _ (List.mem_cons_of_mem _ hr))
    · by_cases hold : s.Completed d
      · exact h.vetoed d hrejects hold
      · have hdeciding : ¬ s.Deciding :=
          fun hdeciding => hold (hquiet hdeciding d hrejects hcompleted)
        exact h.bounded_of_not_deciding hdeciding

/-- The ledger holds a rejection, and the execution has not come past it. -/
structure System.Stopped (plan : RemediationPlan) (s : System T) : Prop where
  vetoed : Vetoed plan s.world
  execution : s.execution.Bounded (Vetoed plan) OnlyLocks fun _ => True
  appends : ∀ decision q, (decision, q) ∈ s.appends →
    q.Bounded (fun _ => True) AppendsOnly fun _ => True
  replaced : ¬ s.replaced

omit [Hashing] in
theorem System.Stopped.step (h : s.Stopped plan) (hstep : s.Step s') : s'.Stopped plan := by
  cases hstep with
  | @execution p w _ hp =>
    obtain ⟨hexecution, hlocks⟩ := h.execution.of_step h.vetoed hp
    have hlocks : OnlyLocks s.world w := by
      rcases hlocks with rfl | hlocks
      · exact ⟨rfl, rfl⟩
      · exact hlocks
    refine ⟨h.vetoed.of_lines (by rw [hlocks.2]), hexecution, h.appends, ?_⟩
    rintro (hreplaced | hreplaces)
    · exact h.replaced hreplaced
    · exact hreplaces (by rw [hlocks.1])
  | @append front decision q back q' w _ hs hq =>
    have hmem : (decision, q) ∈ s.appends := hs ▸ List.mem_append_right _ List.mem_cons_self
    obtain ⟨hbounded, hgrows⟩ := (h.appends decision q hmem).of_step trivial hq
    refine ⟨?_, h.execution, fun d r hr => ?_, h.replaced⟩
    · rcases hgrows with rfl | hgrows
      · exact h.vetoed
      · exact h.vetoed.of_lines hgrows.2
    · rcases List.mem_append.mp hr with hr | hr
      · exact h.appends d r (hs ▸ List.mem_append_left _ hr)
      · rcases List.mem_cons.mp hr with heq | hr
        · obtain ⟨rfl, rfl⟩ := Prod.mk.inj heq
          exact hbounded
        · exact h.appends d r (hs ▸ List.mem_append_right _ (List.mem_cons_of_mem _ hr))

/-- A rejection that was completed before `current.json` is replaced, in a run of which
no step completed one while the execution was deciding, vetoes the execution. -/
theorem rejection_vetoes [TokenFormat] (world : World T) (call : ExecuteCall)
    (decisions : List ApprovalDecision)
    (hrun : Relation.ReflTransGen (System.QuietStep call.plan)
      (System.start world call decisions) s)
    (hrejects : decision.Rejects call.plan) (hcompleted : s.Completed decision)
    (hnot : ¬ s.replaced) (hlater : Relation.ReflTransGen System.Step s s') : ¬ s'.replaced := by
  have hvetting : s.Vetting call.plan := by
    clear hcompleted hnot hlater
    induction hrun with
    | refl => exact .start world call decisions
    | tail _ hstep ih => exact ih.step hstep
  have hstopped : s.Stopped call.plan :=
    { vetoed := ⟨decision, hrejects, hvetting.recorded hcompleted⟩
      execution := (hvetting.vetoed decision hrejects hcompleted).resolve_left hnot
      appends := fun d q hmem => (hvetting.appends d q hmem).1
      replaced := hnot }
  have hend : s'.Stopped call.plan := by
    induction hlater with
    | refl => exact hstopped
    | tail _ hstep ih => exact ih.step hstep
  exact hend.replaced

end

end Paic.Remediation
