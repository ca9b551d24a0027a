import DevHub.Equipment.Conformance

/-!
Runs of a controller that is alone in its process: what it does with its inputs, one by one,
and that every run of the process is just that.
-/

namespace DevHub.LoneCtrl

open Sequence SolderCtrls Transition Isolation
open Conformance (Input)

set_option autoImplicit false

def lone (convert : Int → String) (ctrl : SolderCtrl) : Input → SolderCtrl × List Effect
  | .recvCommand cmd => soloReact ctrl (recvDownStream ctrl.state cmd)
  | .onData first rest => receive convert ctrl (first :: rest)
  | .onTaskTimeout => ({ ctrl with state := .idle }, [])

def loneAll (convert : Int → String) (ctrl : SolderCtrl) :
    List Input → SolderCtrl × List Effect
  | [] => (ctrl, [])
  | input :: rest =>
      let first := lone convert ctrl input
      let later := loneAll convert first.1 rest
      (later.1, first.2 ++ later.2)

/-- A controller that is alone in its process, in any state. -/
structure Sole (equip : Nat) where
  process : Process
  ctrl : SolderCtrl
  found : process.ctrls equip = some ctrl
  owned : process.sequenceEquipmen ctrl.state = some equip

variable {process : Process} {equip : Nat} {ctrl : SolderCtrl}

theorem step_follows (convert : Int → String) (input : Input)
    (found : process.ctrls equip = some ctrl)
    (owned : process.sequenceEquipmen ctrl.state = some equip) :
    ∃ after, SolderCtrls.step convert process (input.event equip) = some after ∧
      Follows process equip ctrl.state (lone convert ctrl input) after := by
  cases input with
  | recvCommand cmd =>
      obtain ⟨after, taken⟩ := Option.isSome_iff_exists.mp (call_returns found owned
        fun _ => recvDownStream ctrl.state cmd)
      refine ⟨after, ?_, call_follows found (command_uniform ctrl cmd) (fun _ => owned) taken⟩
      simp only [Input.event, SolderCtrls.step, recvCommand, found, Option.bind_some, taken]
  | onData first rest => exact data_follows convert first rest found owned
  | onTaskTimeout =>
      have idle : Follows process equip ctrl.state ({ ctrl with state := .idle }, [])
          (enterIdle process equip ctrl) :=
        @follows_advance process equip ctrl { effects := [], next := .idle } owned
      refine ⟨_, ?_, idle⟩
      simp only [Input.event, SolderCtrls.step, onTaskTimeout, found, Option.map_some]

/-- A run of the process is what the controller does with the inputs, one by one. -/
theorem run_follows (convert : Int → String) (inputs : List Input)
    (found : process.ctrls equip = some ctrl)
    (owned : process.sequenceEquipmen ctrl.state = some equip) :
    ∃ last, run (SolderCtrls.step convert) process (inputs.map (Input.event equip)) = some last ∧
      Follows process equip ctrl.state (loneAll convert ctrl inputs) last := by
  induction inputs generalizing process ctrl with
  | nil => exact ⟨process, rfl, follows_nothing found⟩
  | cons input rest ih =>
      obtain ⟨next, taken, early⟩ := step_follows convert input found owned
      obtain ⟨last, ran, late⟩ := ih (follows_here early) (early.owned.mpr owned)
      refine ⟨last, ?_, follows_trans early late⟩
      rw [List.map_cons, run, taken, Option.bind_some, ran]

end DevHub.LoneCtrl
