import Mathlib.Algebra.Group.Int.Defs
import Mathlib.Algebra.Group.Nat.Defs
import Mathlib.Tactic.Common

/-!
The serial protocol of the soldering and glue controllers: what each
`SequenceState` does with a command or with received bytes, as the effects on
`m_sequenceEquipmen` and the state it changes to. Bytes outside the received ones,
and variables that were never set, are not part of the model; a handler that needs
one shows it by the effect `outside`.
-/

namespace DevHub.Sequence

set_option autoImplicit false

inductive SequenceType where
  | glueSequence
  | solderSequence
  deriving DecidableEq

/-- The states that are entered; no controller enters `SequenceDownLoadState`. -/
inductive SequenceState where
  | idle
  | upLoad
  | upLoadRep
  | upLoadRepA0
  deriving DecidableEq

def stx : UInt8 := 0x02
def etx : UInt8 := 0x03
def eot : UInt8 := 0x04
def enq : UInt8 := 0x05
def ack : UInt8 := 0x06
def can : UInt8 := 0x18

/-- `outside` stands for an access outside a buffer or to an uninitialised variable. -/
inductive Effect where
  | writePeripheralData (data : List UInt8)
  | upStream (data : String)
  | outside
  deriving DecidableEq

structure Reaction where
  effects : List Effect
  next : SequenceState

def bytes (text : String) : List UInt8 := text.toList.map Char.toUInt8

/-- The value of a plain `char`, which is signed. -/
def charValue (byte : UInt8) : Int :=
  if byte.toNat < 128 then byte.toNat else byte.toNat - 256

def number (digits : List UInt8) : Int :=
  digits.foldl (fun value digit => value * 10 + (charValue digit - 0x30)) 0

/-- The bytes from `first` on, when all of them were received. -/
def field (data : List UInt8) (first count : Nat) : Option (List UInt8) :=
  if first + count ≤ data.length then some ((data.drop first).take count) else none

/-- `snprintf` with `%u`. -/
def intToString (value : Int) : String := toString (value % 2 ^ 32)

def params (pressure time : String) : String :=
  "\x7b\"Press\":" ++ pressure ++ ",\"time\":" ++ time ++ "\x7d"

def solderParams (data : List UInt8) : Option String :=
  (field data 8 4).bind fun pressure =>
    (field data 13 5).map fun time =>
      params (intToString (number pressure)) (intToString (number time))

/-- `string result = data`: the bytes in front of the first NUL. -/
def cString (data : List UInt8) : Option (List UInt8) :=
  if 0 ∈ data then some (data.takeWhile fun byte => byte ≠ 0) else none

/-- `split` at the commas, empty items left out. -/
def items (text : List UInt8) : List (List UInt8) :=
  (text.splitOn 0x2C).filter fun item => !item.isEmpty

def itemNumber (text : List UInt8) (index count : Nat) : Option Int :=
  (items text)[index]?.bind fun item => (field (item ++ [0]) 0 count).map number

/-- `convert` is the text of the `float` that is a hundredth of its argument. -/
def glueParams (convert : Int → String) (data : List UInt8) : Option String :=
  (cString data).bind fun text =>
    (itemNumber text 3 6).bind fun time =>
      (itemNumber text 11 5).map fun pressure => params (convert pressure) (convert time)

def reportedParams (convert : Int → String) (type : SequenceType) (data : List UInt8) :
    Option String :=
  match type with
  | .glueSequence => glueParams convert data
  | .solderSequence => solderParams data

def idleRecvDownStream (msg : String) : Option Reaction :=
  if msg = "GetSpitParam" then
    some { effects := [.writePeripheralData [enq]], next := .upLoad }
  else none

def upLoadRecvUpstream (type : SequenceType) (data : List UInt8) : Option Reaction :=
  if data.head? = some ack then
    match type with
    | .glueSequence =>
        some {
          effects := [.writePeripheralData ([stx] ++ bytes "08UL000,01DA" ++ [etx])]
          next := .upLoadRep }
    | .solderSequence =>
        some {
          effects := [.writePeripheralData ([stx] ++ bytes "08UL001D01C1" ++ [etx])]
          next := .upLoadRepA0 }
  else none

def upLoadRepRecvUpstream (convert : Int → String) (type : SequenceType) (data : List UInt8) :
    Reaction where
  effects :=
    [match reportedParams convert type data with
      | some resp => .upStream resp
      | none => .outside,
    .writePeripheralData [eot]]
  next := .idle

/-- The second character is read only when the first one is an `A`. -/
def upLoadRepA0RecvUpstream (data : List UInt8) : Reaction :=
  let acknowledged : Reaction :=
    { effects := [.writePeripheralData [ack]], next := .upLoadRep }
  let unread : Reaction := { acknowledged with effects := .outside :: acknowledged.effects }
  match data[3]? with
  | none => unread
  | some first =>
      if first = 'A'.toUInt8 then
        match data[4]? with
        | none => unread
        | some second =>
            if second = '2'.toUInt8 then
              { effects :=
                  [.writePeripheralData ([stx] ++ bytes "02" ++ [can, can] ++ bytes "6E" ++ [etx]),
                  .writePeripheralData [eot], .upStream "\x7b\"result\":null\x7d"]
                next := .idle }
            else acknowledged
      else acknowledged

/-- `RecvDownStream`; only the idle state does anything. -/
def recvDownStream (state : SequenceState) (msg : String) : Option Reaction :=
  match state with
  | .idle => idleRecvDownStream msg
  | .upLoad | .upLoadRep | .upLoadRepA0 => none

def recvUpstream (convert : Int → String) (type : SequenceType) (state : SequenceState)
    (data : List UInt8) : Option Reaction :=
  match state with
  | .idle => none
  | .upLoad => upLoadRecvUpstream type data
  | .upLoadRep => some (upLoadRepRecvUpstream convert type data)
  | .upLoadRepA0 => some (upLoadRepA0RecvUpstream data)

theorem text_front {front : List UInt8} (back : List UInt8) (ends : 0 ∈ front) :
    (front ++ back).takeWhile (fun byte => decide (byte ≠ 0)) =
      front.takeWhile fun byte => decide (byte ≠ 0) := by
  induction front with
  | nil => cases ends
  | cons byte rest ih =>
      by_cases zero : byte = 0
      · simp [zero]
      · have later : 0 ∈ rest := by
          rcases List.mem_cons.mp ends with first | later
          · exact absurd first.symm zero
          · exact later
        simp only [List.cons_append, List.takeWhile_cons, decide_eq_true zero, if_true, ih later]

theorem text_back {front : List UInt8} (back : List UInt8) (open_ : 0 ∉ front) :
    (front ++ back).takeWhile (fun byte => decide (byte ≠ 0)) =
      front ++ back.takeWhile fun byte => decide (byte ≠ 0) := by
  apply List.takeWhile_append_of_pos
  intro byte member
  exact decide_eq_true fun zero => open_ (zero ▸ member)

theorem recv_upstream_acts (convert : Int → String) (type other : SequenceType)
    (state : SequenceState) (data : List UInt8) :
    (recvUpstream convert type state data).isSome =
      (recvUpstream convert other state data).isSome := by
  cases state with
  | idle => rfl
  | upLoad =>
      simp only [recvUpstream, upLoadRecvUpstream]
      by_cases starts : data.head? = some ack
      · rw [if_pos starts, if_pos starts]
        cases type <;> cases other <;> simp only [Option.isSome_some]
      · rw [if_neg starts, if_neg starts]
  | upLoadRep => rfl
  | upLoadRepA0 => rfl

theorem recv_upstream_effects {convert : Int → String} {type : SequenceType}
    {state : SequenceState} {data : List UInt8} {reaction : Reaction}
    (reacts : recvUpstream convert type state data = some reaction) : reaction.effects ≠ [] := by
  cases state with
  | idle => cases reacts
  | upLoad =>
      rw [recvUpstream] at reacts
      unfold upLoadRecvUpstream at reacts
      by_cases starts : data.head? = some ack
      · rw [if_pos starts] at reacts
        cases type with
        | glueSequence =>
            obtain rfl := Option.some.inj reacts
            exact List.cons_ne_nil _ _
        | solderSequence =>
            obtain rfl := Option.some.inj reacts
            exact List.cons_ne_nil _ _
      · rw [if_neg starts] at reacts
        cases reacts
  | upLoadRep =>
      obtain rfl := Option.some.inj reacts
      exact List.cons_ne_nil _ _
  | upLoadRepA0 =>
      obtain rfl := Option.some.inj reacts
      unfold upLoadRepA0RecvUpstream
      dsimp only
      split
      · exact List.cons_ne_nil _ _
      · split
        · split
          · exact List.cons_ne_nil _ _
          · split <;> exact List.cons_ne_nil _ _
        · exact List.cons_ne_nil _ _

end DevHub.Sequence
