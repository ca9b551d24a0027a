import DevHub.Transcation.Decision

/-!
The request that a reply is for: its name and number, the format it came in and, for a text,
the items in front of the command. The replies take the format and the items from the
task, and each takes the name and the number from the request, from a literal or from what
`SetReqId` and `SetCmdName` left in the task.
-/

namespace DevHub.Asking

open Looper TaskUse Transcations CommaText Decisions

set_option autoImplicit false

inductive Asked where
  | json (request : Request)
  | common (machineId stationId slotId : String) (request : Request)

def Asked.request : Asked → Request
  | .json request => request
  | .common _ _ _ request => request

def askedIn (frame : Frame) : Option Asked :=
  match frameRequest frame, frame with
  | some (some request), .json _ => some (.json request)
  | some (some request), .text info =>
      match split info ',' with
      | machineId :: stationId :: slotId :: _ => some (.common machineId stationId slotId request)
      | _ => none
  | _, _ => none

def Asked.reply (asked : Asked) (errorNo : Int) (cmd : String) (reqId : Int) : Message :=
  match asked with
  | .json _ => buildResponse errorNo cmd reqId
  | .common machineId stationId slotId _ =>
      .text (machineId ++ "," ++ stationId ++ "," ++ slotId ++ "," ++ cmd ++ ","
        ++ toString errorNo ++ "," ++ toString reqId)

/-- The message is in the format of the request and names it with its number. -/
def Carries (asked : Asked) (message : Message) : Prop :=
  match asked with
  | .json request => ∃ root, message = .styled root ∧
      root.member "cmd" = some (.string request.cmd) ∧
      root.member "ReqId" = some (.int request.reqId)
  | .common _ _ _ request => ∃ text, message = .text text ∧
      request.cmd ∈ split text ',' ∧ toString request.reqId ∈ split text ','

/-- A device report in the format of the request: the object names the request, the text
begins with the items of its frame. -/
def DataReply (asked : Asked) (message : Message) : Prop :=
  match asked with
  | .json _ => Carries asked message
  | .common machineId stationId slotId _ => ∃ data : List String,
      message = .text (data.foldl (fun text item => text ++ "," ++ item)
        (machineId ++ "," ++ stationId ++ "," ++ slotId))

def Holds (task : Task) : Asked → Prop
  | .json _ => task.format = some .json
  | .common machineId stationId slotId _ => task.format = some .common ∧
      task.machineId = machineId ∧ task.stationId = stationId ∧ task.slotId = slotId

/-- `SetReqId` and `SetCmdName` were last called for the request. -/
def Noted (task : Task) (request : Request) : Prop :=
  task.cmdName = request.cmd ∧ task.reqId = request.reqId

/-- The transcation that passed a command to a device, for an answer that comes later. -/
def commandedBy : Output → Option Nat
  | .recvCommand transId _ _ => some transId
  | .writeData transId _ data => if data = "%ER" then some transId else none
  | _ => none

structure SameHead (first second : Task) : Prop where
  format : first.format = second.format
  machineId : first.machineId = second.machineId
  stationId : first.stationId = second.stationId
  slotId : first.slotId = second.slotId

structure SameNote (first second : Task) : Prop where
  cmdName : first.cmdName = second.cmdName
  reqId : first.reqId = second.reqId

/-- The reply of a command: only `ERROR_COMMAND` and the errors of `BalanceCl` may name
another one, and only `ERROR_COMMAND` may have another number. -/
def IsReply (task : Task) (request : Request) (message : Message) : Source → Prop
  | .nothingToDo _ => ∃ cmd reqId, message = response task errorCommand cmd reqId
  | _ => ∃ errorNo cmd, message = response task errorNo cmd request.reqId ∧
      (request.cmd ≠ "BalanceCl" → cmd = request.cmd)

/-- The same, told from the request alone. -/
def Answer (asked : Asked) (message : Message) : Source → Prop
  | .nothingToDo _ => ∃ cmd reqId, message = asked.reply errorCommand cmd reqId
  | _ => (∃ errorNo cmd, message = asked.reply errorNo cmd asked.request.reqId) ∧
      (asked.request.cmd ≠ "BalanceCl" → Carries asked message)

/-- What a transcation does with a request, as far as a client can tell. -/
structure Replied (transId : Nat) (request : Request) (before after : Task) (out : List Output) :
    Prop where
  head : SameHead after before
  noted : SameNote after before ∨ Noted after request
  handed : ∀ output ∈ out, ∀ other, commandedBy output = some other →
    other = transId ∧ Noted after request
  replies : ∀ receiver message source, .sendMessage receiver message source ∈ out →
    IsReply before request message source

theorem same_head_refl (task : Task) : SameHead task task := ⟨rfl, rfl, rfl, rfl⟩

theorem same_head_holds {first second : Task} (same : SameHead first second) {asked : Asked}
    (holds : Holds second asked) : Holds first asked := by
  cases asked with
  | json request => exact same.format.trans holds
  | common machineId stationId slotId request =>
      exact ⟨same.format.trans holds.1, same.machineId.trans holds.2.1,
        same.stationId.trans holds.2.2.1, same.slotId.trans holds.2.2.2⟩

theorem same_note_noted {first second : Task} (same : SameNote first second) {request : Request}
    (noted : Noted second request) : Noted first request :=
  ⟨same.cmdName.trans noted.1, same.reqId.trans noted.2⟩

theorem response_same_head {first second : Task} (same : SameHead first second) (errorNo : Int)
    (cmd : String) (reqId : Int) : response first errorNo cmd reqId = response second errorNo cmd reqId := by
  unfold response buildCommResponse
  rw [same.format, same.machineId, same.stationId, same.slotId]

theorem holds_response {task : Task} {asked : Asked} (holds : Holds task asked) (errorNo : Int)
    (cmd : String) (reqId : Int) : response task errorNo cmd reqId = asked.reply errorNo cmd reqId := by
  cases asked with
  | json request =>
      have format : task.format = some .json := holds
      rw [response, format]
      rfl
  | common machineId stationId slotId request =>
      obtain ⟨format, machine, station, slot⟩ := holds
      rw [response, format]
      simp only [buildCommResponse, Asked.reply, machine, station, slot]

theorem Replied.cons {transId : Nat} {request : Request} {before after : Task} {output : Output}
    {out : List Output} (replied : Replied transId request before after out)
    (plain : commandedBy output = none)
    (silent : ∀ receiver message source, output ≠ .sendMessage receiver message source) :
    Replied transId request before after (output :: out) := by
  constructor
  · exact replied.head
  · exact replied.noted
  · intro one member other command
    rcases List.mem_cons.mp member with same | later
    · rw [same, plain] at command
      cases command
    · exact replied.handed one later other command
  · intro receiver message source sent
    rcases List.mem_cons.mp sent with same | later
    · exact absurd same.symm (silent receiver message source)
    · exact replied.replies receiver message source later

/-- The command was passed to a device, with the note that its reply is read from. -/
theorem pending_replied {transId : Nat} {request : Request} {before after : Task} {output : Output}
    (command : commandedBy output = some transId)
    (head : SameHead after before) (noted : Noted after request) :
    Replied transId request before after [output] := by
  constructor
  · exact head
  · exact Or.inr noted
  · intro one member other commanded
    rw [List.mem_singleton.mp member, command] at commanded
    exact ⟨(Option.some.inj commanded).symm, noted⟩
  · intro receiver message source sent
    cases List.mem_singleton.mp sent
    cases command

/-- The task may have been stored between, as long as a reply shows the same of it. -/
theorem Replied.since {transId : Nat} {request : Request} {start before after : Task}
    {out : List Output} (replied : Replied transId request before after out)
    (head : SameHead before start) (note : SameNote before start) :
    Replied transId request start after out := by
  constructor
  · exact ⟨replied.head.format.trans head.format, replied.head.machineId.trans head.machineId,
      replied.head.stationId.trans head.stationId, replied.head.slotId.trans head.slotId⟩
  · cases replied.noted with
    | inl same => exact Or.inl ⟨same.cmdName.trans note.cmdName, same.reqId.trans note.reqId⟩
    | inr noted => exact Or.inr noted
  · exact replied.handed
  · intro receiver message source sent
    have reply := replied.replies receiver message source sent
    unfold IsReply at reply ⊢
    simp only [response_same_head head] at reply
    exact reply

variable {Looper : Type} [EventLooper Looper TimerSink]

section Commands

variable {transId : Nat} {trans : Transcation} {session : SessionId} {request : Request}
variable {ctx after : TaskContext Looper} {out : List Output}

theorem answer_replied {before : Task} {errorNo : Int} {cmd : String}
    (result : answer transId session errorNo cmd request.reqId ctx = (after, out))
    (head : SameHead ctx.task before) (noted : SameNote ctx.task before ∨ Noted ctx.task request)
    (named : request.cmd ≠ "BalanceCl" → cmd = request.cmd) :
    Replied transId request before after.task out := by
  rw [answer, update_reply (response_reply _ _ _ _)] at result
  obtain ⟨rfl, rfl⟩ := Prod.mk.inj result
  constructor
  · exact ⟨head.format, head.machineId, head.stationId, head.slotId⟩
  · exact noted.imp (fun same => ⟨same.cmdName, same.reqId⟩) id
  · intro output member other command
    rw [List.mem_singleton.mp member] at command
    cases command
  · intro receiver message source sent
    cases List.mem_singleton.mp sent
    exact ⟨errorNo, cmd, response_same_head head _ _ _, named⟩

omit [EventLooper Looper TimerSink] in
theorem nothing_replied (transId : Nat) (request : Request) (task : Task) :
    Replied transId request task task [] :=
  ⟨same_head_refl _, Or.inl ⟨rfl, rfl⟩, by simp, by simp⟩

theorem process_cmd_replied
    (taken : processCmd transId trans session request ctx = some (after, out)) :
    Replied transId request ctx.task after.task out := by
  cases process_cmd_carried taken with
  | answers stored writes errorNo cmd decided start device code named task emitted =>
      have head : SameHead stored.task ctx.task ∧
          (SameNote stored.task ctx.task ∨ Noted stored.task request) := by
        rcases start with same | same
        · rw [same]
          exact ⟨same_head_refl _, Or.inl ⟨rfl, rfl⟩⟩
        · rw [same]
          exact ⟨⟨rfl, rfl, rfl, rfl⟩, Or.inr ⟨rfl, rfl⟩⟩
      have replied : Replied transId request ctx.task
          (answer transId session errorNo cmd request.reqId stored).1.task
          (answer transId session errorNo cmd request.reqId stored).2 :=
        answer_replied rfl head.1 head.2 named
      rw [task, emitted]
      rcases device with none | ⟨number, written⟩
      · rw [none]
        exact replied
      · rw [written]
        exact replied.cons rfl (fun _ _ _ same => nomatch same)
  | waits command decided given task emitted =>
      have commanded : commandedBy command = some transId := by
        obtain ⟨number, solder | balance⟩ := given
        · rw [solder]
          rfl
        · rw [balance]
          rfl
      rw [task, emitted]
      exact pending_replied commanded ⟨rfl, rfl, rfl, rfl⟩ ⟨rfl, rfl⟩
  | nothing decided task emitted =>
      rw [task, emitted]
      exact nothing_replied transId request ctx.task

theorem decline_replied (result : update session (.text "NothingToDo") transId ctx = (after, out)) :
    Replied transId request ctx.task after.task out := by
  have head : SameHead (setTransStatus ctx.task transId) ctx.task := by
    unfold setTransStatus
    split
    · exact ⟨rfl, rfl, rfl, rfl⟩
    · exact same_head_refl _
  have note : SameNote (setTransStatus ctx.task transId) ctx.task := by
    unfold setTransStatus
    split
    · exact ⟨rfl, rfl⟩
    · exact ⟨rfl, rfl⟩
  simp only [update] at result
  split at result
  · obtain ⟨rfl, rfl⟩ := Prod.mk.inj result
    constructor
    · exact ⟨head.format, head.machineId, head.stationId, head.slotId⟩
    · exact Or.inl ⟨note.cmdName, note.reqId⟩
    · intro output member other command
      rw [List.mem_singleton.mp member] at command
      cases command
    · intro receiver message source sent
      cases List.mem_singleton.mp sent
      exact ⟨_, _, response_same_head head _ _ _⟩
  · obtain ⟨rfl, rfl⟩ := Prod.mk.inj result
    exact ⟨head, Or.inl note, by simp, by simp⟩

theorem dispatch_replied
    (taken : dispatch transId trans session request ctx = some (after, out)) :
    Replied transId request ctx.task after.task out := by
  unfold dispatch at taken
  split at taken
  · exact decline_replied (Option.some.inj taken)
  · obtain ⟨⟨last, emitted⟩, processed, same⟩ := Option.map_eq_some_iff.mp taken
    obtain ⟨rfl, rfl⟩ := Prod.mk.inj same
    have replied : Replied transId request ctx.task last.task emitted :=
      (process_cmd_replied processed).since ⟨rfl, rfl, rfl, rfl⟩ ⟨rfl, rfl⟩
    exact replied.cons rfl (fun _ _ _ same => nomatch same)

end Commands

/-! ### The frame -/

theorem split_on_bare (text : List Char) (delim : Char) :
    ∀ item ∈ text.splitOn delim, delim ∉ item := by
  induction text with
  | nil => simp
  | cons c rest ih =>
      intro item member
      rw [List.splitOn_cons_eq_if_modifyHead] at member
      split at member
      · rcases List.mem_cons.mp member with rfl | later
        · simp
        · exact ih item later
      · rename_i other
        obtain ⟨first, more, pieces⟩ := List.exists_cons_of_ne_nil (List.splitOn_ne_nil delim rest)
        rw [pieces] at ih member
        rcases List.mem_cons.mp member with same | later
        · rw [same, List.mem_cons, not_or]
          exact ⟨fun equal => other (by simp [equal]), ih first List.mem_cons_self⟩
        · exact ih item (List.mem_cons_of_mem _ later)

theorem split_item {text item : String} (member : item ∈ split text ',') : Item item := by
  obtain ⟨chars, kept, rfl⟩ := List.mem_map.mp member
  obtain ⟨piece, nonempty⟩ := List.mem_filter.mp kept
  constructor
  · intro empty
    have none_ : chars = [] := by
      rw [← String.toList_ofList (l := chars), empty]
      rfl
    rw [none_] at nonempty
    cases nonempty
  · rw [String.toList_ofList]
    exact split_on_bare text.toList ',' chars piece

theorem read_request_cmd {value : Json} {request : Request}
    (read : readRequest value = some (some request)) :
    value.member "cmd" = some (.string request.cmd) := by
  obtain ⟨cmd, found, rest⟩ := Option.bind_eq_some_iff.mp read
  split at rest
  · rename_i name
    obtain ⟨reqId, -, rest⟩ := Option.bind_eq_some_iff.mp rest
    split at rest
    · obtain ⟨param, -, rest⟩ := Option.bind_eq_some_iff.mp rest
      obtain ⟨number, -, same⟩ := Option.map_eq_some_iff.mp rest
      cases same
      exact found
    · cases rest
  · cases rest

theorem command_members_cmd {cmd : String} {equpNum : Int} {members : List (String × Json)}
    (built : commandMembers cmd equpNum = some members) :
    (Json.object members).member "cmd" = some (.string cmd) ∧
      ∀ reqId, (Json.object (("ReqId", reqId) :: members)).member "cmd" = some (.string cmd) := by
  unfold commandMembers at built
  split at built
  · cases built
    exact ⟨rfl, fun _ => rfl⟩
  · split at built
    · cases built
      exact ⟨rfl, fun _ => rfl⟩
    · cases built

/-- Items that make a request are at least four, and the fourth is the command. -/
theorem items_ask {items : List String} {decoded : Decoded} {value : Json} {request : Request}
    (decodes : decodeItems items = some decoded) (found : decoded.value = some value)
    (read : readRequest value = some (some request)) :
    ∃ machineId stationId slotId rest,
      items = machineId :: stationId :: slotId :: request.cmd :: rest ∧
        decoded.auxiliary = some (machineId, stationId, slotId) ∧ decoded.format = .common := by
  have command := read_request_cmd read
  have notNull (empty : value = .null) : False := by
    subst empty
    cases command
  match items with
  | [] | [_] | [_, _] | [_, _, _] =>
      cases decodes
      exact (notNull (Option.some.inj found).symm).elim
  | machineId :: stationId :: slotId :: cmd :: rest =>
      have none_ (early : Decoded.mk (some (machineId, stationId, slotId)) .common none = decoded) :
          False := by
        subst early
        cases found
      simp only [decodeItems] at decodes
      obtain ⟨equpNum, -, decodes⟩ := Option.bind_eq_some_iff.mp decodes
      split at decodes
      · exact (none_ (Option.some.inj decodes)).elim
      · split at decodes
        · exact (none_ (Option.some.inj decodes)).elim
        · rename_i members built
          obtain ⟨plain, numbered⟩ := command_members_cmd built
          split at decodes
          · obtain rfl := Option.some.inj decodes
            cases found
            cases plain.symm.trans command
            exact ⟨machineId, stationId, slotId, [], rfl, rfl, rfl⟩
          · obtain ⟨reqId, -, decodes⟩ := Option.bind_eq_some_iff.mp decodes
            split at decodes
            · exact (none_ (Option.some.inj decodes)).elim
            · obtain rfl := Option.some.inj decodes
              cases found
              cases (numbered (.int reqId)).symm.trans command
              exact ⟨machineId, stationId, slotId, _, rfl, rfl, rfl⟩

theorem text_asks {info : String} {request : Request}
    (read : frameRequest (.text info) = some (some request)) :
    ∃ machineId stationId slotId rest,
      split info ',' = machineId :: stationId :: slotId :: request.cmd :: rest ∧
        askedIn (.text info) = some (.common machineId stationId slotId request) ∧
          ∀ decoded, decodeFrame (.text info) = some decoded → ∀ task,
            Holds (decoded.store task) (.common machineId stationId slotId request) := by
  obtain ⟨decoded, decodes, rest⟩ := Option.bind_eq_some_iff.mp read
  cases found : decoded.value with
  | none => simp [found] at rest
  | some value =>
      simp only [found] at rest
      obtain ⟨machineId, stationId, slotId, more, items, auxiliary, format⟩ :=
        items_ask decodes found rest
      refine ⟨machineId, stationId, slotId, more, items, by simp [askedIn, read, items], ?_⟩
      intro decoded' decodes' task
      obtain rfl := Option.some.inj (decodes.symm.trans decodes')
      simp [Holds, Decoded.store, auxiliary, found, format]

theorem frame_asks {frame : Frame} {request : Request}
    (read : frameRequest frame = some (some request)) :
    ∃ asked, askedIn frame = some asked ∧ asked.request = request ∧
      ∀ decoded, decodeFrame frame = some decoded → ∀ task, Holds (decoded.store task) asked := by
  cases frame with
  | json value =>
      refine ⟨.json request, by simp [askedIn, read], rfl, ?_⟩
      intro decoded decodes task
      cases decodes
      rfl
  | text info =>
      obtain ⟨machineId, stationId, slotId, _, _, asks, holds⟩ := text_asks read
      exact ⟨_, asks, rfl, holds⟩

theorem asked_request {frame : Frame} {asked : Asked} (asks : askedIn frame = some asked) :
    frameRequest frame = some (some asked.request) := by
  cases read : frameRequest frame with
  | none => simp [askedIn, read] at asks
  | some found =>
      cases found with
      | none => simp [askedIn, read] at asks
      | some request =>
          obtain ⟨asked', asks', same, -⟩ := frame_asks read
          obtain rfl := Option.some.inj (asks'.symm.trans asks)
          rw [same]

theorem reply_carries {frame : Frame} {asked : Asked} (asks : askedIn frame = some asked)
    (errorNo : Int) : Carries asked (asked.reply errorNo asked.request.cmd asked.request.reqId) := by
  have read := asked_request asks
  cases frame with
  | json value =>
      simp only [askedIn, read, Option.some.injEq] at asks
      cases asked with
      | json request => exact ⟨_, rfl, rfl, rfl⟩
      | common machineId stationId slotId request => cases asks
  | text info =>
      obtain ⟨machineId, stationId, slotId, rest, items, asks', -⟩ := text_asks read
      have common := Option.some.inj (asks'.symm.trans asks)
      generalize asked.request = request at *
      subst common
      have front : ∀ name ∈ [machineId, stationId, slotId, request.cmd], Item name := by
        intro name member
        apply split_item
        rw [items]
        exact List.mem_append_left rest member
      have each : ∀ name ∈ [machineId, stationId, slotId, request.cmd] ++
          [toString errorNo, toString request.reqId], Item name := by
        intro name member
        rcases List.mem_append.mp member with head | last
        · exact front name head
        · rcases List.mem_cons.mp last with code | number
          · exact code ▸ int_item errorNo
          · exact List.mem_singleton.mp number ▸ int_item request.reqId
      have text (first second third fourth fifth sixth : String) :
          first ++ "," ++ second ++ "," ++ third ++ "," ++ fourth ++ "," ++ fifth ++ "," ++ sixth =
            String.intercalate "," ([first, second, third, fourth] ++ [fifth, sixth]) := rfl
      refine ⟨_, rfl, ?_⟩
      rw [text, split_items each (by simp)]
      simp

variable {Looper : Type} [EventLooper Looper TimerSink]

/-- `DownInfo` leaves the task alone where there is no request, and else replies to it. -/
theorem down_info_replied {transId : Nat} {trans : Transcation} {session : SessionId}
    {frame : Frame} {ctx after : TaskContext Looper} {out : List Output}
    (taken : downInfo transId trans session frame ctx = some (after, out)) :
    (askedIn frame = none ∧ out = []) ∨
      ∃ asked stored, askedIn frame = some asked ∧ Holds stored asked ∧ SameNote stored ctx.task ∧
        Replied transId asked.request stored after.task out := by
  cases down_info_reads transId trans session frame ctx with
  | throws _ left =>
      rw [left] at taken
      cases taken
  | dropped decoded _ read done =>
      rw [done] at taken
      cases taken
      exact Or.inl ⟨by simp [askedIn, read], rfl⟩
  | request decoded request decodes read _ done =>
      rw [done] at taken
      obtain ⟨asked, asks, same, holds⟩ := frame_asks read
      have note : SameNote (decoded.store ctx.task) ctx.task := by
        unfold Decoded.store
        constructor
        · split <;> split <;> rfl
        · split <;> split <;> rfl
      right
      refine ⟨asked, decoded.store ctx.task, asks, holds decoded decodes ctx.task, note, ?_⟩
      rw [same]
      exact dispatch_replied taken

end DevHub.Asking
