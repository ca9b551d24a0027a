import DevHub.Communication.Wiring
import DevHub.Transcation.Decision
import DevHub.Transcation.Returns

/-!
One request in the two formats: the text "m,s,n,cmd,r" and the object with "cmd", "param"
and "ReqId". A frame means to the hub what each subscribed transcation decides about it and
what the hub then emits; the formats agree where these do. The strict reader is a parameter,
because a text whose beginning it takes for a value is never split.
-/

namespace DevHub.TwoFormats

open Looper TaskUse Transcations CommServer Wiring CommaText Decisions Returns

set_option autoImplicit false

def commaFrame (machineId stationId : String) (slot : Nat) (cmd : String) (reqId : Nat) : String :=
  String.intercalate "," [machineId, stationId, toString slot, cmd, toString reqId]

/-- The value that the digits of a number are read to; from 2^64 on it is a double. -/
def readNumber (number : Nat) : Json :=
  if (number : Int) ≤ Json.maxInt then .int number
  else if number < 2 ^ 64 then .uint number
  else .real number

def jsonFrame (slot : Nat) (cmd : String) (reqId : Nat) : Json :=
  .object [("ReqId", readNumber reqId), ("cmd", .string cmd), ("param", .array [.int slot])]

section Hubs

variable {Looper : Type}

def visited (hub : Hub Looper) (session : SessionId) : List Nat :=
  if (hub.tasks session).status ≠ .idle then [] else subscribedIds hub session

/-- The same transcations take the two frames, for the same peripherals, and the hub emits
the same writes, commands and results. -/
def SameMeaning [EventLooper Looper TimerSink] (hub : Hub Looper) (session : SessionId)
    (one other : Frame) : Prop :=
  (∀ transId ∈ visited hub session, ∀ trans, hub.transcations.find? transId = some trans →
    decision trans (frameRequest one) = decision trans (frameRequest other)) ∧
  (onFrame hub session one).map (fun result => result.2.map view) =
    (onFrame hub session other).map (fun result => result.2.map view)

structure HubAlike (first second : Hub Looper) : Prop where
  transcations : first.transcations = second.transcations
  created : first.created = second.created
  deleted : first.deleted = second.deleted
  looper : first.looper = second.looper
  tasks : ∀ session, TaskAlike (first.tasks session) (second.tasks session)

theorem hub_alike_refl (hub : Hub Looper) : HubAlike hub hub :=
  ⟨rfl, rfl, rfl, rfl, fun _ => ⟨rfl, rfl, rfl⟩⟩

def SameStep (first second : Option (Hub Looper × List Output)) : Prop :=
  Option.Rel (fun left right => HubAlike left.1 right.1 ∧ left.2.map view = right.2.map view)
    first second

variable [EventLooper Looper TimerSink] {first second : Hub Looper}

omit [EventLooper Looper TimerSink] in
theorem store_hub_alike (alike : HubAlike first second) (session : SessionId)
    {left right : TaskContext Looper} (same : Alike left right) :
    HubAlike (first.store session left) (second.store session right) := by
  refine ⟨alike.transcations, alike.created, alike.deleted, same.looper, ?_⟩
  intro other
  by_cases here : other = session
  · rw [here, store_task, store_task]
    exact same.task
  · rw [store_other _ _ here, store_other _ _ here]
    exact alike.tasks other

theorem down_stream_alike (alike : HubAlike first second) {one other : Frame} {transId : Nat}
    (same : ∀ trans, first.transcations.find? transId = some trans →
      decision trans (frameRequest one) = decision trans (frameRequest other)) :
    SameStep (onDownStream first transId one) (onDownStream second transId other) := by
  unfold onDownStream
  rw [← alike.transcations]
  cases found : first.transcations.find? transId with
  | none => exact Option.Rel.some ⟨alike, rfl⟩
  | some trans =>
      dsimp only
      cases trans.task with
      | none => exact Option.Rel.none
      | some session =>
          have live : second.live session ↔ first.live session := by
            rw [Hub.live, Hub.live, alike.created, alike.deleted]
          simp only [Option.bind_some, live]
          split
          · have contexts : Alike (first.context session) (second.context session) :=
              ⟨alike.tasks session, alike.looper⟩
            have results : SameResult
                (downInfo transId trans session one (first.context session))
                (downInfo transId trans session other (second.context session)) :=
              down_info_alike contexts (same trans found)
            revert results
            generalize downInfo transId trans session one (first.context session) = left
            generalize downInfo transId trans session other (second.context session) = right
            intro results
            cases results with
            | none => exact Option.Rel.none
            | some both =>
                apply Option.Rel.some
                exact ⟨store_hub_alike alike session both.1, congrArg (List.cons _) both.2⟩
          · exact Option.Rel.none

theorem down_stream_all_alike (alike : HubAlike first second) {one other : Frame} {ids : List Nat}
    (same : ∀ transId ∈ ids, ∀ trans, first.transcations.find? transId = some trans →
      decision trans (frameRequest one) = decision trans (frameRequest other)) :
    SameStep (downStreamAll one first ids) (downStreamAll other second ids) := by
  induction ids generalizing first second with
  | nil => exact Option.Rel.some ⟨alike, rfl⟩
  | cons transId rest ih =>
      have visit := down_stream_alike alike (same transId List.mem_cons_self)
      rw [downStreamAll, downStreamAll]
      cases taken : onDownStream first transId one with
      | none =>
          cases taken' : onDownStream second transId other with
          | none => exact Option.Rel.none
          | some _ =>
              rw [taken, taken'] at visit
              cases visit
      | some result =>
          cases taken' : onDownStream second transId other with
          | none =>
              rw [taken, taken'] at visit
              cases visit
          | some result' =>
              rw [taken, taken'] at visit
              cases visit with
              | some both =>
                  obtain ⟨alike', seen⟩ := both
                  have wiring := down_stream_same_wiring (taken.trans rfl)
                  have later := ih alike' (by
                    intro transId' member trans found
                    rw [wiring.transcations] at found
                    exact same transId' (List.mem_cons_of_mem _ member) trans found)
                  rw [Option.bind_some, Option.bind_some]
                  revert later
                  generalize downStreamAll one result.1 rest = left
                  generalize downStreamAll other result'.1 rest = right
                  intro later
                  cases later with
                  | none => exact Option.Rel.none
                  | some tails =>
                      apply Option.Rel.some
                      refine ⟨tails.1, ?_⟩
                      rw [List.map_append, List.map_append, seen, tails.2]

theorem same_meaning_iff (hub : Hub Looper) (session : SessionId) (one other : Frame) :
    SameMeaning hub session one other ↔
      ∀ transId ∈ visited hub session, ∀ trans, hub.transcations.find? transId = some trans →
        decision trans (frameRequest one) = decision trans (frameRequest other) := by
  constructor
  · exact fun meaning => meaning.1
  · intro decided
    refine ⟨decided, ?_⟩
    unfold onFrame
    split
    · rfl
    · rename_i idle
      rw [visited, if_neg idle] at decided
      have results := down_stream_all_alike (hub_alike_refl hub) decided
      revert results
      generalize downStreamAll one hub (subscribedIds hub session) = left
      generalize downStreamAll other hub (subscribedIds hub session) = right
      intro results
      cases results with
      | none => rfl
      | some both => exact congrArg some both.2

end Hubs

/-! ### The two decisions -/

theorem comma_request {machineId stationId cmd : String} {slot reqId : Nat}
    (machine : Item machineId) (station : Item stationId) (command : Item cmd) (range : slot ≤ 6) :
    frameRequest (.text (commaFrame machineId stationId slot cmd reqId)) =
      match commandMembers cmd slot with
      | none => some none
      | some members =>
          if (reqId : Int) ≤ Json.maxInt then readRequest (.object (("ReqId", .int reqId) :: members))
          else none := by
  have items : ∀ item ∈ [machineId, stationId, toString slot, cmd, toString reqId], Item item := by
    intro item member
    simp only [List.mem_cons, List.not_mem_nil, or_false] at member
    rcases member with rfl | rfl | rfl | rfl | rfl
    · exact machine
    · exact station
    · exact nat_item slot
    · exact command
    · exact nat_item reqId
  have small : (slot : Int) ≤ Json.maxInt := by
    simp only [Json.maxInt]
    omega
  have inside : ¬ ((slot : Int) < 0 ∨ (slot : Int) > 6) := by omega
  have notNegative : ¬ (reqId : Int) < 0 := by omega
  rw [frameRequest, decodeFrame, commaFrame, split_items items (by simp)]
  simp only [decodeItems, stoi_nat, if_pos small, Option.bind_some, if_neg inside]
  cases commandMembers cmd slot with
  | none => rfl
  | some members =>
      dsimp only
      split
      · rw [Option.bind_some, if_neg notNegative, Option.bind_some]
      · rfl

theorem read_small {reqId : Nat} (small : (reqId : Int) ≤ Json.maxInt) (cmd : String)
    (members : List (String × Json)) (param : Json)
    (command : (Json.object (("ReqId", .int reqId) :: members)).member "cmd" = some (.string cmd))
    (slot : (Json.object (("ReqId", .int reqId) :: members)).member "param" = some param) :
    readRequest (.object (("ReqId", .int reqId) :: members)) =
      some (some { cmd := cmd, reqId := reqId, param := param }) := by
  have low : Json.minInt ≤ (reqId : Int) := by
    simp only [Json.minInt]
    omega
  have number : (Json.object (("ReqId", .int reqId) :: members)).member "ReqId" =
      some (.int reqId) := rfl
  rw [readRequest, command, Option.bind_some]
  dsimp only
  rw [number, Option.bind_some, slot]
  simp [Json.isInt, Json.asInt, low, small]

theorem json_request (slot : Nat) (cmd : String) (reqId : Nat) :
    frameRequest (.json (jsonFrame slot cmd reqId)) =
      if (reqId : Int) ≤ Json.maxInt then
        some (some { cmd := cmd, reqId := reqId, param := .array [.int slot] })
      else some none := by
  change readRequest (jsonFrame slot cmd reqId) = _
  unfold jsonFrame readNumber
  split
  · rename_i small
    exact read_small small cmd _ _ rfl rfl
  · rename_i large
    have notInt (value : Json) (whole : value.isInt = false) :
        readRequest (.object [("ReqId", value), ("cmd", .string cmd),
          ("param", .array [.int slot])]) = some none := by
      change (if value.isInt then _ else some none) = _
      rw [whole]
      rfl
    split
    · exact notInt _ (by simpa [Json.isInt] using large)
    · apply notInt
      have above : (reqId : Rat).num > Json.maxInt := by simpa using large
      have refused : decide ((reqId : Rat).num ≤ Json.maxInt) = false :=
        decide_eq_false (by omega)
      rw [Json.isInt, refused, Bool.and_false]

/-- The slot gets to `ProcessCmd` under "param" only; `GetSpitParam` looks for 0. -/
def SlotKept (trans : Transcation) (slot : Nat) (cmd : String) : Prop :=
  cmd = "GetSpitParam" → cmd ∈ trans.commandNames → cmd ∈ implemented trans.kind →
    slot = 0 ∨ (selectPeripherals trans 0 = none ∧ selectPeripherals trans slot = none)

/-- The comma path knows three commands. It drops the others, and lets a known one throw
with a number that is too large, which the object drops with every command. -/
def Agrees (trans : Transcation) (slot : Nat) (cmd : String) (reqId : Nat) : Prop :=
  if cmd ∈ ["BalanceQp", "BalanceCl", "GetSpitParam"] then
    (reqId : Int) ≤ Json.maxInt ∧ SlotKept trans slot cmd
  else Json.maxInt < reqId


theorem large_agrees {trans : Transcation} {machineId stationId cmd : String} {slot reqId : Nat}
    (machine : Item machineId) (station : Item stationId) (command : Item cmd) (range : slot ≤ 6)
    (large : ¬ (reqId : Int) ≤ Json.maxInt) :
    decision trans (frameRequest (.text (commaFrame machineId stationId slot cmd reqId))) =
        decision trans (frameRequest (.json (jsonFrame slot cmd reqId))) ↔
      cmd ∉ ["BalanceQp", "BalanceCl", "GetSpitParam"] := by
  rw [← command_members_known cmd slot, comma_request machine station command range,
    json_request, if_neg large]
  cases commandMembers cmd slot with
  | none => exact iff_of_true rfl (by simp)
  | some members =>
      simp only [if_neg large]
      apply iff_of_false
      · intro same
        cases same
      · exact fun unknown => unknown ⟨members, rfl⟩

theorem accepted_iff {trans : Transcation} (left right : Request) (cmd : left.cmd = right.cmd)
    (listed : checkCommandName trans left.cmd = true) {one other : Choice}
    (first : choose trans left = some one) (second : choose trans right = some other) :
    decision trans (some (some left)) = decision trans (some (some right)) ↔ one = other := by
  have listed' : checkCommandName trans right.cmd = true := cmd ▸ listed
  rw [decision_request, decision_request, if_neg (by simp [listed]), if_neg (by simp [listed']),
    first, second, cmd]
  simp

theorem spit_agrees (trans : Transcation) (slot : Nat) (range : slot ≤ 6) (reqId : Int) :
    decision trans (some (some { cmd := "GetSpitParam", reqId := reqId, param := .null })) =
        decision trans
          (some (some { cmd := "GetSpitParam", reqId := reqId, param := .array [.int slot] })) ↔
      SlotKept trans slot "GetSpitParam" := by
  let plain : Request := { cmd := "GetSpitParam", reqId := reqId, param := .null }
  let object : Request := { plain with param := .array [.int slot] }
  by_cases listed : "GetSpitParam" ∈ trans.commandNames
  · have check : checkCommandName trans "GetSpitParam" = true := by
      simpa [checkCommandName] using listed
    by_cases known : "GetSpitParam" ∈ implemented trans.kind
    · have bounds : Json.minInt ≤ (slot : Int) ∧ (slot : Int) ≤ Json.maxInt := by
        simp only [Json.minInt, Json.maxInt]
        omega
      have reads : equipNo (.array [.int slot]) = some (some (slot : Int)) := by
        simp [equipNo, Json.element, Json.asInt, bounds]
      have first : choose trans plain = some (chosen trans 0) := choose_known known
      have second : choose trans object = some (chosen trans slot) := by
        rw [choose_known known, reads]
        rfl
      have zero : (0 : Int) = slot ↔ slot = 0 := by omega
      rw [accepted_iff plain object rfl check first second, chosen_eq_iff, zero]
      simp only [SlotKept, listed, known, true_implies]
    · have unhandled (request : Request) (cmd : request.cmd = "GetSpitParam") :
          choose trans request = some .unhandled := by
        rw [choose, cmd, if_neg known]
      rw [accepted_iff plain object rfl check (unhandled plain rfl) (unhandled object rfl)]
      exact iff_of_true rfl (fun _ _ handled => absurd handled known)
  · have check : checkCommandName trans "GetSpitParam" = false := by
      simpa [checkCommandName] using listed
    rw [decision_request, decision_request, if_pos check, if_pos check]
    exact iff_of_true rfl (fun _ member => absurd member listed)

theorem decisions_agree_iff {trans : Transcation} {machineId stationId cmd : String}
    {slot reqId : Nat} (machine : Item machineId) (station : Item stationId) (command : Item cmd)
    (range : slot ≤ 6) :
    decision trans (frameRequest (.text (commaFrame machineId stationId slot cmd reqId))) =
        decision trans (frameRequest (.json (jsonFrame slot cmd reqId))) ↔
      Agrees trans slot cmd reqId := by
  by_cases small : (reqId : Int) ≤ Json.maxInt
  · rw [comma_request machine station command range, json_request, if_pos small, Agrees]
    by_cases balance : cmd = "BalanceQp" ∨ cmd = "BalanceCl"
    · have known : cmd ∈ ["BalanceQp", "BalanceCl", "GetSpitParam"] := by
        rcases balance with rfl | rfl
        · simp
        · simp
      have kept : SlotKept trans slot cmd := by
        intro spit
        rcases balance with rfl | rfl
        · exact absurd spit (by decide)
        · exact absurd spit (by decide)
      rw [commandMembers, if_pos balance, if_pos known]
      simp only [if_pos small]
      rw [read_small small cmd _ _ rfl rfl]
      exact iff_of_true rfl ⟨small, kept⟩
    · by_cases spit : cmd = "GetSpitParam"
      · subst spit
        rw [commandMembers, if_neg balance, if_pos rfl, if_pos (by simp)]
        simp only [if_pos small]
        rw [read_small small _ _ _ rfl rfl, spit_agrees trans slot range]
        simp [small]
      · have unknown : cmd ∉ ["BalanceQp", "BalanceCl", "GetSpitParam"] := by
          simpa [spit] using balance
        rw [commandMembers, if_neg balance, if_neg spit, if_neg unknown]
        exact iff_of_false (request_kept trans _) (by omega)
  · rw [large_agrees machine station command range small, Agrees]
    split
    · rename_i known
      simp [known, small]
    · rename_i unknown
      exact iff_of_true unknown (by omega)

/-- What the two frames need at a transcation: a text that the strict reader takes for a
value is no list of items, and then the value has to ask for the same. -/
def FramesAgree (strict : String → Option Json) (trans : Transcation)
    (machineId stationId : String) (slot : Nat) (cmd : String) (reqId : Nat) : Prop :=
  match strict (commaFrame machineId stationId slot cmd reqId) with
  | some value => decision trans (readRequest value) =
      decision trans (readRequest (jsonFrame slot cmd reqId))
  | none => Agrees trans slot cmd reqId

/-- The two frames of a request mean the same to the hub exactly when every transcation
that they are handed to agrees about them. -/
theorem comma_means_json_iff {Looper : Type} [EventLooper Looper TimerSink] (hub : Hub Looper)
    (session : SessionId) (strict : String → Option Json) (machineId stationId cmd : String)
    (slot reqId : Nat) (machine : Item machineId) (station : Item stationId) (command : Item cmd)
    (range : slot ≤ 6) :
    SameMeaning hub session (frameOf strict (commaFrame machineId stationId slot cmd reqId))
        (.json (jsonFrame slot cmd reqId)) ↔
      ∀ transId ∈ visited hub session, ∀ trans, hub.transcations.find? transId = some trans →
        FramesAgree strict trans machineId stationId slot cmd reqId := by
  rw [same_meaning_iff]
  apply forall₂_congr
  intro transId _
  apply forall₂_congr
  intro trans _
  unfold FramesAgree frameOf
  cases strict (commaFrame machineId stationId slot cmd reqId) with
  | some value => exact Iff.rfl
  | none => exact decisions_agree_iff machine station command range

def solderOne : Transcation where
  kind := .solder
  transName := "solder"
  task := none
  commandNames := ["GetSpitParam"]
  ipWhiteList := ["10.0.0.1"]
  peripherals := [{ equipmentName := "solder", equipmentNo := 1, fd := 3 }]

def balanceOne : Transcation where
  kind := .balance
  transName := "balance"
  task := none
  commandNames := ["BalanceQp"]
  ipWhiteList := ["10.0.0.1"]
  peripherals := [{ equipmentName := "balance", equipmentNo := 1, fd := 4 }]

def oneEach : Hub (EventLooperImp TimerSink) :=
  onConnection
    (Hub.start ((StdMap.empty.insert 1 balanceOne).insert 2 solderOne) EventLooperImp.empty)
    "10.0.0.1" ⟨none, 0⟩

theorem balance_frames_agree :
    SameMeaning oneEach 0 (frameOf (fun _ => none) (commaFrame "m1" "s1" 1 "BalanceQp" 7))
      (.json (jsonFrame 1 "BalanceQp" 7)) := by
  apply (comma_means_json_iff oneEach 0 (fun _ => none) "m1" "s1" "BalanceQp" 1 7
    ⟨by decide, by decide⟩ ⟨by decide, by decide⟩ ⟨by decide, by decide⟩ (by decide)).mpr
  intro transId _ trans _
  change Agrees trans 1 "BalanceQp" 7
  rw [Agrees, if_pos (by decide)]
  exact ⟨by decide, fun spit => absurd spit (by decide)⟩

/-- The text is answered with `ERROR_PARAM`, the object goes to the controller. -/
theorem spit_param_frames_differ :
    ¬ SameMeaning oneEach 0 (frameOf (fun _ => none) (commaFrame "m1" "s1" 1 "GetSpitParam" 7))
      (.json (jsonFrame 1 "GetSpitParam" 7)) := by
  intro meaning
  have codes := congrArg (Option.map fun seen => seen.filterMap Prod.snd) meaning.2
  revert codes
  decide

end DevHub.TwoFormats
