import DevHub.Plc.Downstream
import DevHub.Transcation.Transcation
import Mathlib.Data.Rat.Lemmas

/-!
The frames that `Transcation::DownInfo` and `Director::OnFrame` survive. The readers of
JsonCpp are parameters; a text that the strict one refuses is split at its commas. The
conditions name the members and items that the two functions convert without a check.
-/

namespace DevHub.Returns

open Looper TaskUse Transcations

set_option autoImplicit false

def frameOf (strict : String → Option Json) (text : String) : Frame :=
  match strict text with
  | some value => .json value
  | none => .text text

/-- `value["param"][0].asInt()` comes after a test that admits every array. -/
def ParamConverts (param : Json) : Prop :=
  ∀ elements, param = .array elements → (elements.getD 0 .null).asInt.isSome = true

/-- A value without members must be null, and the parameter of a command that the
transcation lists and implements must convert. -/
def JsonSafe (trans : Transcation) : Json → Prop
  | .null => True
  | .object members => ∀ cmd reqId param,
      (Json.object members).member "cmd" = some (.string cmd) →
        (Json.object members).member "ReqId" = some reqId → reqId.isInt = true →
          (Json.object members).member "param" = some param →
            cmd ∈ trans.commandNames → cmd ∈ implemented trans.kind → ParamConverts param
  | _ => False

/-- With a command there must be a slot number, and behind a known command for a slot
from 0 to 6 a number of the request if there is any item. -/
def TextSafe : List String → Prop
  | _ :: _ :: slotId :: cmd :: rest =>
      ∃ equpNum, stoi slotId = some equpNum ∧
        (0 ≤ equpNum → equpNum ≤ 6 → cmd ∈ ["BalanceQp", "BalanceCl", "GetSpitParam"] →
          ∀ item ∈ rest.head?, (stoi item).isSome = true)
  | _ => True

def DownSafe (trans : Transcation) : Frame → Prop
  | .json value => JsonSafe trans value
  | .text info => TextSafe (split info ',')

theorem is_int_converts {value : Json} (whole : value.isInt = true) : value.asInt.isSome = true := by
  cases value with
  | int value => simpa [Json.isInt, Json.asInt] using whole
  | uint value => simpa [Json.isInt, Json.asInt] using whole
  | real value =>
      simp only [Json.isInt, Bool.and_eq_true, decide_eq_true_eq] at whole
      obtain ⟨⟨integral, low⟩, high⟩ := whole
      have same : (value.num : Rat) = value := Rat.coe_int_num_of_den_eq_one integral
      have bounds : (Json.minInt : Rat) ≤ value ∧ value ≤ (Json.maxInt : Rat) := by
        rw [← same]
        exact ⟨by exact_mod_cast low, by exact_mod_cast high⟩
      simp [Json.asInt, bounds]
  | _ => cases whole

theorem equip_no_converts (param : Json) : (equipNo param).isSome = true ↔ ParamConverts param := by
  unfold ParamConverts equipNo
  cases param with
  | array elements => simp [Json.element]
  | null => simp [Json.element, Json.asInt]
  | _ => simp

section Down

variable {Looper : Type} [EventLooper Looper TimerSink]
variable {transId : Nat} {trans : Transcation} {session : SessionId} {ctx : TaskContext Looper}

theorem process_cmd_safe {request : Request} :
    (processCmd transId trans session request ctx).isSome = true ↔
      (request.cmd ∈ implemented trans.kind → ParamConverts request.param) := by
  by_cases known : request.cmd ∈ implemented trans.kind
  · rw [process_cmd_returns known, equip_no_converts]
    simp [known]
  · unfold processCmd
    cases kind : trans.kind <;> rw [kind] at known <;> simp_all [implemented]

theorem dispatch_safe {request : Request} :
    (dispatch transId trans session request ctx).isSome = true ↔
      (request.cmd ∈ trans.commandNames → request.cmd ∈ implemented trans.kind →
        ParamConverts request.param) := by
  unfold dispatch
  by_cases listed : request.cmd ∈ trans.commandNames
  · have check : checkCommandName trans request.cmd = true := by simpa [checkCommandName] using listed
    rw [if_neg (by simp [check]), Option.isSome_map, process_cmd_safe]
    simp [listed]
  · have check : checkCommandName trans request.cmd = false := by
      simpa [checkCommandName] using listed
    simp [check, listed]

theorem value_safe (value : Json) (stored : TaskContext Looper) :
    ((readRequest value).bind fun read =>
      match read with
      | none => some (stored, [])
      | some request => dispatch transId trans session request stored).isSome = true ↔
        JsonSafe trans value := by
  cases value with
  | null => simp [readRequest, Json.member, JsonSafe]
  | object members =>
      have field (name : String) : ∃ value, (Json.object members).member name = some value := by
        rw [Json.member]
        split <;> exact ⟨_, rfl⟩
      obtain ⟨cmd, hasCmd⟩ := field "cmd"
      obtain ⟨reqId, hasReqId⟩ := field "ReqId"
      obtain ⟨param, hasParam⟩ := field "param"
      simp only [readRequest, JsonSafe, hasCmd, hasReqId, hasParam, Option.bind_some,
        Option.some.injEq]
      cases cmd with
      | string cmd =>
          cases whole : reqId.isInt with
          | true =>
              obtain ⟨number, converted⟩ := Option.isSome_iff_exists.mp (is_int_converts whole)
              dsimp only
              rw [if_pos rfl, converted, Option.map_some, Option.bind_some, dispatch_safe]
              constructor
              · intro safe _ _ _ sameCmd _ _ sameParam
                cases sameCmd
                exact sameParam ▸ safe
              · exact fun safe => safe cmd reqId param rfl rfl whole rfl
          | false =>
              simp only [Bool.false_eq_true, if_false, Option.bind_some, Option.isSome_some,
                true_iff]
              intro _ _ _ _ sameReqId integral
              rw [← sameReqId, whole] at integral
              cases integral
      | _ => simp
  | _ => simp [readRequest, Json.member, JsonSafe]

theorem down_info_json (value : Json) :
    (downInfo transId trans session (.json value) ctx).isSome = true ↔ JsonSafe trans value := by
  rw [downInfo, decodeFrame, Option.bind_some]
  exact value_safe value _

/-- The comma path builds the parameter itself, so its object is safe. -/
theorem command_members_safe {cmd : String} {equpNum : Int} {members : List (String × Json)}
    (low : 0 ≤ equpNum) (high : equpNum ≤ 6) (built : commandMembers cmd equpNum = some members)
    (more : List (String × Json)) (numbered : ∀ entry ∈ more, entry.1 = "ReqId") :
    JsonSafe trans (.object (more ++ members)) := by
  have skipped : more.find? (fun entry => entry.1 = "param") = none := by
    apply List.find?_eq_none.mpr
    intro entry member
    simp [numbered entry member]
  have converts : (Json.int equpNum).asInt.isSome = true := by
    have bounds : Json.minInt ≤ equpNum ∧ equpNum ≤ Json.maxInt := by
      simp only [Json.minInt, Json.maxInt]
      omega
    simp [Json.asInt, bounds]
  intro _ _ param _ _ _ found _ _ elements same
  subst same
  rw [Json.member, List.find?_append, skipped, Option.none_or] at found
  unfold commandMembers at built
  split at built
  · cases built
    cases found
    exact converts
  · split at built
    · cases built
      cases found
    · cases built

omit [EventLooper Looper TimerSink] in
theorem command_members_known (cmd : String) (equpNum : Int) :
    (∃ members, commandMembers cmd equpNum = some members) ↔
      cmd ∈ ["BalanceQp", "BalanceCl", "GetSpitParam"] := by
  unfold commandMembers
  simp only [List.mem_cons, List.not_mem_nil, or_false, ← or_assoc]
  by_cases balance : cmd = "BalanceQp" ∨ cmd = "BalanceCl"
  · simp [balance]
  · by_cases spit : cmd = "GetSpitParam"
    · simp [spit]
    · simp [balance, spit]

theorem down_info_items (items : List String) :
    ((decodeItems items).bind fun decoded =>
      let stored := { ctx with task := decoded.store ctx.task }
      match decoded.value with
      | none => some (stored, [])
      | some value =>
          (readRequest value).bind fun read =>
            match read with
            | none => some (stored, [])
            | some request => dispatch transId trans session request stored).isSome = true ↔
      TextSafe items := by
  match items with
  | [] => simp [decodeItems, readRequest, Json.member, TextSafe]
  | [_] => simp [decodeItems, readRequest, Json.member, TextSafe]
  | [_, _] => simp [decodeItems, readRequest, Json.member, TextSafe]
  | [_, _, _] => simp [decodeItems, readRequest, Json.member, TextSafe]
  | machineId :: stationId :: slotId :: cmd :: rest =>
      simp only [decodeItems, TextSafe]
      cases slot : stoi slotId with
      | none => simp
      | some equpNum =>
          simp only [Option.bind_some, Option.some.injEq, exists_eq_left']
          by_cases outside : equpNum < 0 ∨ equpNum > 6
          · rw [if_pos outside, Option.bind_some]
            refine iff_of_true rfl ?_
            intro low high
            omega
          · have low : 0 ≤ equpNum := by omega
            have high : equpNum ≤ 6 := by omega
            rw [if_neg outside]
            cases built : commandMembers cmd equpNum with
            | none =>
                refine iff_of_true rfl ?_
                intro _ _ known
                obtain ⟨members, same⟩ := (command_members_known cmd equpNum).mpr known
                rw [built] at same
                cases same
            | some members =>
                have known := (command_members_known cmd equpNum).mp ⟨members, built⟩
                cases rest with
                | nil =>
                    refine iff_of_true ?_ (by simp)
                    exact (value_safe _ _).mpr (command_members_safe low high built [] (by simp))
                | cons item _ =>
                    simp only [low, high, known, true_implies, List.head?_cons,
                      Option.mem_some_iff, forall_eq']
                    cases last : stoi item with
                    | none => simp
                    | some reqId =>
                        refine iff_of_true ?_ rfl
                        rw [Option.bind_some]
                        split
                        · rfl
                        · exact (value_safe _ _).mpr (command_members_safe low high built
                            [("ReqId", .int reqId)] (by simp))

theorem down_info_returns (frame : Frame) :
    (downInfo transId trans session frame ctx).isSome = true ↔ DownSafe trans frame := by
  cases frame with
  | json value => exact down_info_json value
  | text info => exact down_info_items (split info ',')

end Down

/-- Neither of the two functions is left by an exception. -/
def ReturnsNormally {Looper : Type} [EventLooper Looper TimerSink]
    (strict lenient : String → Option Json) (text : String) (transId : Nat) (trans : Transcation)
    (session : SessionId) (ctx : TaskContext Looper) : Prop :=
  (downInfo transId trans session (frameOf strict text) ctx).isSome = true ∧
    (Downstream.onFrame (lenient text)).returns = true

theorem frame_returns_iff {Looper : Type} [EventLooper Looper TimerSink]
    (strict lenient : String → Option Json) (text : String) (transId : Nat) (trans : Transcation)
    (session : SessionId) (ctx : TaskContext Looper) :
    ReturnsNormally strict lenient text transId trans session ctx ↔
      DownSafe trans (frameOf strict text) ∧
        ∀ root, Downstream.Walked (lenient text) root → Downstream.WellNested root :=
  and_congr (down_info_returns _) (Downstream.on_frame_returns _)

def balanceTrans : Transcation where
  kind := .balance
  transName := "balance"
  task := none
  commandNames := ["BalanceQp"]
  ipWhiteList := ["10.0.0.1"]
  peripherals := []

/-- A slot that is no number, in a text that no reader takes. -/
theorem slot_name_throws :
    ¬ ReturnsNormally (fun _ => none) (fun _ => none) "m1,s1,left,BalanceQp,7" 1 balanceTrans 0
      { task := Task.new none 0, looper := EventLooperImp.empty } := by
  intro returns
  exact absurd returns.1 (by decide)

end DevHub.Returns
