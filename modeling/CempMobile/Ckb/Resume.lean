import CempMobile.Ckb.Publisher
import CempMobile.Lib.Crash

open cemp.core cemp.database

namespace cemp.ckb

/-- What the calls of a wait do to the state: a poll that reports the commit turns `known` into
    `seen`, any other call leaves it known. -/
structure Polls {σ : Type} (effect : Program.Effect Op Error σ) (txHash : Hash)
    (known seen : σ → Prop) : Prop where
  committed : ∀ s s', known s → effect _ (.getTransaction txHash) s (.ok .committed) s' → seen s'
  status : ∀ s r s', known s → effect _ (.getTransaction txHash) s r s' → r ≠ .ok .committed →
    known s'
  late : ∀ s r s', known s → effect _ .deadlinePassed s r s' → known s'
  send : ∀ tx s r s', known s → effect _ (.sendTransaction tx) s r s' → known s'

namespace Polls

variable {σ : Type} {effect : Program.Effect Op Error σ} {txHash : Hash} {known seen : σ → Prop}
  {record : JournaledTx} {timeoutMs : Option Nat} {s : σ}

/-- A wait that returns has seen the commit. -/
theorem pollForCommit (h : Polls effect txHash known seen) (timeoutMs sleeps : Nat) (hs : known s) :
    Program.Always effect (fun _ _ => known) (pollForCommit txHash timeoutMs sleeps) s
      (Program.OkOr seen fun _ => known) := by
  induction sleeps generalizing s with
  | zero =>
    refine Program.Always.step hs (fun e s' hanswer => h.status s _ s' hs hanswer (by simp)) ?_
    intro status s' hanswer
    cases status with
    | committed => exact h.committed s s' hs hanswer
    | rejected reason => exact h.status s _ s' hs hanswer (by simp)
    | _ => exact h.status s _ s' hs hanswer (by simp)
  | succ sleeps ih =>
    refine Program.Always.step hs (fun e s' hanswer => h.status s _ s' hs hanswer (by simp)) ?_
    intro status s' hanswer
    have later : known s' → Program.Always effect (fun _ _ => known)
        (do
          let late ← call .deadlinePassed
          if late then throw (timedOut timeoutMs status)
          else cemp.ckb.pollForCommit txHash timeoutMs sleeps) s'
        (Program.OkOr seen fun _ => known) := by
      intro hs'
      refine Program.Always.step hs' (fun e s'' hlate => h.late s' _ s'' hs' hlate) ?_
      intro late s'' hlate
      have hs'' := h.late s' _ s'' hs' hlate
      cases late with
      | true => exact hs''
      | false => exact ih hs''
    cases status with
    | committed => exact h.committed s s' hs hanswer
    | rejected reason => exact h.status s _ s' hs hanswer (by simp)
    | _ => exact later (h.status s _ s' hs hanswer (by simp))

theorem wait (h : Polls effect txHash known seen) (hs : known s) :
    Program.Always effect (fun _ _ => known) (waitForTransactionCommit txHash timeoutMs) s
      (Program.OkOr seen fun _ => known) :=
  h.pollForCommit _ _ hs

theorem resubmit (h : Polls effect record.txHash known seen) (hs : known s) :
    Program.Always effect (fun _ _ => known) (resubmit record timeoutMs) s
      (Program.OkOr seen fun _ => known) := by
  unfold cemp.ckb.resubmit
  cases record.txHex with
  | none => exact hs
  | some wire =>
    have hsend : Program.Always effect (fun _ _ => known)
        (Program.attempt (call (.sendTransaction wire))) s fun _ => known := by
      refine Program.Always.attempt (Program.always_perform.2 ⟨hs, fun r s' hanswer => ?_⟩)
      exact h.send wire s r s' hs hanswer
    refine hsend.bind (fun answer s' hs' => ?_) fun _ _ hs' => hs'
    cases answer with
    | error e =>
      simp only
      split <;> exact hs'
    | ok hash =>
      simp only
      split
      · exact hs'
      · exact (h.wait hs').bind (fun _ _ hseen => hseen) fun _ _ hs' => hs'

/-- Resuming a journaled broadcast returns when the commit was seen. -/
theorem resume (h : Polls effect record.txHash known seen) (hs : known s) :
    Program.Always effect (fun _ _ => known) (resumeJournaledBroadcast record timeoutMs) s
      (Program.OkOr seen fun _ => known) := by
  have wait : ∀ s', known s' → Program.Always effect (fun _ _ => known)
      ((waitForTransactionCommit record.txHash timeoutMs).bind
        fun _ => Program.ret ResumeBroadcastOutcome.committed) s' (Program.OkOr seen fun _ => known) :=
    fun s' hs' => (h.wait hs').bind (fun _ _ hseen => hseen) fun _ _ hs' => hs'
  refine Program.Always.step hs (fun e s' hanswer => h.status s _ s' hs hanswer (by simp)) ?_
  intro status s' hanswer
  cases status with
  | committed => exact h.committed s s' hs hanswer
  | rejected reason => exact h.status s _ s' hs hanswer (by simp)
  | pending => exact wait s' (h.status s _ s' hs hanswer (by simp))
  | proposed => exact wait s' (h.status s _ s' hs hanswer (by simp))
  | sent => exact h.resubmit (h.status s _ s' hs hanswer (by simp))
  | unknown => exact h.resubmit (h.status s _ s' hs hanswer (by simp))

end Polls

end cemp.ckb
