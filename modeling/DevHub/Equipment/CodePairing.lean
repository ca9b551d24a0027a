import DevHub.Library.Run
import DevHub.Transcation.Json

/-!
`CodePairing`: two barcodes that different scanners report within three seconds make a pair.
JsonCpp is not part of the repository; its reader and its text of a double are parameters.
A message is the value whose styled text is sent, and `none` is a type error of JsonCpp.
-/

namespace DevHub.CodePairing

open Transition

set_option autoImplicit false

structure JsonCpp where
  parse : String → Option Json
  valueToString : Rat → String

def asString (library : JsonCpp) : Json → Option String
  | .null => some ""
  | .string value => some value
  | .bool value => some (if value then "true" else "false")
  | .int value => some (toString value)
  | .uint value => some (toString value)
  | .real value => some (library.valueToString value)
  | .array _ => none
  | .object _ => none

def memberText (library : JsonCpp) (value : Json) (name : String) : Option String :=
  (value.member name).bind (asString library)

structure Record where
  isUseful : Bool
  lastTimeUs : Int
  code : String
  deriving DecidableEq

def errorMessage (errorCode : Int) (curInfo : String) : Json :=
  .object [("errorCode", .int errorCode), ("errorDetail", .string curInfo)]

def pairItem (dev code : String) : Json := .object [("code", .string code), ("dev", .string dev)]

def pairMessage (curDev curCode lastDev lastCode : String) : Json :=
  .array [pairItem curDev curCode, pairItem lastDev lastCode]

/-- `m_tcpTransfer->UpdateInfo`, if there is one. -/
def send (transfer : Bool) (message : Json) : List Json := if transfer then [message] else []

/-- The test for a scanner error, before anything else: what is sent, the parsed report and
whether the function returns. -/
def checkError (library : JsonCpp) (transfer : Bool) (curInfo : String) :
    Option (List Json × Json × Bool) :=
  match library.parse curInfo with
  | none => some ([], .null, true)
  | some valueCur =>
      (memberText library valueCur "code").map fun code =>
        if "ERROR".toList.isPrefixOf code.toList then
          (send transfer (errorMessage 1 curInfo), valueCur, true)
        else ([], valueCur, true)

/-- The rest of `UpdateInfo`. -/
def pairRecord (library : JsonCpp) (transfer : Bool) (record : Record) (curInfo : String)
    (currentTimeUs : Int) (valueCur : Json) : Option (Record × List Json) :=
  if record.isUseful then
    match library.parse record.code with
    | none => some ({ record with isUseful := false }, [])
    | some valueLast =>
        (memberText library valueLast "dev").bind fun lastDev =>
          (memberText library valueCur "dev").bind fun curDev =>
            if lastDev = curDev then some (record, send transfer (errorMessage 2 curInfo))
            else if currentTimeUs - record.lastTimeUs > 3000 then
              some ({ isUseful := true, lastTimeUs := currentTimeUs, code := curInfo },
                send transfer (errorMessage 2 curInfo))
            else
              (memberText library valueCur "code").bind fun curCode =>
                (memberText library valueLast "code").map fun lastCode =>
                  ({ record with isUseful := false },
                    send transfer (pairMessage curDev curCode lastDev lastCode))
  else some ({ isUseful := true, lastTimeUs := currentTimeUs, code := curInfo }, [])

def updateInfo (library : JsonCpp) (transfer : Bool) (record : Record) (curInfo : String)
    (currentTimeUs : Int) : Option (Record × List Json) :=
  (checkError library transfer curInfo).bind fun (sent, valueCur, returns) =>
    if returns then some (record, sent)
    else
      (pairRecord library transfer record curInfo currentTimeUs valueCur).map
        fun (record, more) => (record, sent ++ more)

/-- A report of a scanner: an object with the two members, and no error of the scanner. -/
structure Report (library : JsonCpp) where
  text : String
  time : Int
  value : Json
  dev : String
  code : String
  parses : library.parse text = some value
  hasDev : value.member "dev" = some (.string dev)
  hasCode : value.member "code" = some (.string code)
  plain : "ERROR".toList.isPrefixOf code.toList = false

/-- `m_lastRecord`, and the messages sent so far. -/
structure Pairing where
  lastRecord : Record
  sent : List Json

def Pairing.start : Pairing where
  lastRecord := { isUseful := false, lastTimeUs := 0, code := "" }
  sent := []

section Library

variable {library : JsonCpp}

def step (transfer : Bool) : Step Pairing (Report library) := fun pairing report =>
  (updateInfo library transfer pairing.lastRecord report.text report.time).map
    fun (record, sent) => { lastRecord := record, sent := pairing.sent ++ sent }

/-- A report makes a pair with a record of another device that is not too old, and becomes
the record when there is none. -/
structure PairsCodes (before : Pairing) (report : Report library) (after : Pairing) : Prop where
  pair : before.lastRecord.isUseful = true → ∀ last : Report library,
    before.lastRecord.code = last.text → last.dev ≠ report.dev →
    report.time - before.lastRecord.lastTimeUs ≤ 3000 →
    after.sent = before.sent ++ [pairMessage report.dev report.code last.dev last.code] ∧
      after.lastRecord.isUseful = false
  record : before.lastRecord.isUseful = false →
    after.lastRecord = { isUseful := true, lastTimeUs := report.time, code := report.text }

theorem report_member_text (report : Report library) :
    memberText library report.value "dev" = some report.dev ∧
      memberText library report.value "code" = some report.code := by
  constructor
  · rw [memberText, report.hasDev]
    rfl
  · rw [memberText, report.hasCode]
    rfl

theorem check_error_returns {transfer : Bool} {curInfo : String} {sent : List Json}
    {valueCur : Json} {returns : Bool}
    (checked : checkError library transfer curInfo = some (sent, valueCur, returns)) :
    returns = true := by
  unfold checkError at checked
  split at checked
  · cases checked
    rfl
  · obtain ⟨code, -, result⟩ := Option.map_eq_some_iff.mp checked
    split at result
    · cases result
      rfl
    · cases result
      rfl

/-- No text, report or not, changes the record. -/
theorem update_info_record {transfer : Bool} {record after : Record} {curInfo : String}
    {currentTimeUs : Int} {sent : List Json}
    (updated : updateInfo library transfer record curInfo currentTimeUs = some (after, sent)) :
    after = record := by
  obtain ⟨⟨first, valueCur, returns⟩, checked, rest⟩ := Option.bind_eq_some_iff.mp updated
  have returned := check_error_returns checked
  simp only [returned, if_true, Option.some.injEq, Prod.mk.injEq] at rest
  exact rest.1.symm

theorem update_info_report (transfer : Bool) (record : Record) (report : Report library) :
    updateInfo library transfer record report.text report.time = some (record, []) := by
  have code := (report_member_text report).2
  have checked : checkError library transfer report.text = some ([], report.value, true) := by
    rw [checkError, report.parses]
    simp only [code, Option.map_some, report.plain, Bool.false_eq_true, if_false]
  rw [updateInfo, checked]
  rfl

/-- The rest of the function, were it reached, pairs the codes. -/
theorem pair_record_pairs {pairing : Pairing} {report : Report library} :
    ∀ record sent,
      pairRecord library true pairing.lastRecord report.text report.time report.value =
        some (record, sent) →
      PairsCodes pairing report { lastRecord := record, sent := pairing.sent ++ sent } := by
  intro record sent paired
  obtain ⟨curDev, curCode⟩ := report_member_text report
  constructor
  · intro useful last stored different recent
    obtain ⟨lastDev, lastCode⟩ := report_member_text last
    rw [pairRecord, if_pos useful, stored, last.parses] at paired
    simp only [lastDev, lastCode, curDev, curCode, Option.bind_some, Option.map_some,
      if_neg different, if_neg (Int.not_lt.mpr recent), Option.some.injEq, Prod.mk.injEq] at paired
    obtain ⟨rfl, rfl⟩ := paired
    exact ⟨rfl, rfl⟩
  · intro useless
    rw [pairRecord, if_neg (by simp [useless])] at paired
    cases paired
    rfl

/-- No report ever becomes a record: only the empty sequence of reports is handled as
meant. -/
theorem pairs_codes_iff (transfer : Bool) (reports : List (Report library)) :
    EachStep (step transfer) PairsCodes Pairing.start reports ↔ reports = [] := by
  constructor
  · intro pairs
    cases reports with
    | nil => rfl
    | cons report rest =>
        have taken : step transfer Pairing.start report = some Pairing.start := by
          rw [step, update_info_report]
          rfl
        have stored := (pairs _ taken).1.record rfl
        have useful : false = true := congrArg Record.isUseful stored
        cases useful
  · intro none
    subst none
    trivial

end Library

def oneText : JsonCpp where
  parse text :=
    if text = "\x7b\"code\":\"A1\",\"dev\":\"/dev/ttyO1\"\x7d" then
      some (pairItem "/dev/ttyO1" "A1")
    else none
  valueToString _ := ""

def oneReport : Report oneText where
  text := "\x7b\"code\":\"A1\",\"dev\":\"/dev/ttyO1\"\x7d"
  time := 0
  value := pairItem "/dev/ttyO1" "A1"
  dev := "/dev/ttyO1"
  code := "A1"
  parses := rfl
  hasDev := rfl
  hasCode := rfl
  plain := rfl

/-- The first report is not kept. -/
theorem first_report_lost : ¬ EachStep (step true) PairsCodes Pairing.start [oneReport] := by
  intro pairs
  have stored := (pairs Pairing.start rfl).1.record rfl
  have useful : false = true := congrArg Record.isUseful stored
  cases useful

end DevHub.CodePairing
