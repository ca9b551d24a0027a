import DevHub.Library.Checks
import DevHub.Transcation.Config

/-!
The objects that `FunctionManager::Update` and `TranscationManager::Update` make. Both
loops leave an entry at many places, some of them after a `new`, so an entry comes with the
place where its body was left. A type error of JsonCpp ends the process, as nothing catches
it; so does the null equipment of an unknown `transcationName`.
-/

namespace DevHub.Loading

open Checks Config

set_option autoImplicit false

inductive Stop where
  | typeError
  | nullEquipment
  deriving DecidableEq

inductive Updater where
  | plcFins (index : Nat)
  | transcation (index : Nat)
  deriving DecidableEq

/-- `opened` is the success of `OpenPeripheral`, `equipment` has the updater it was built
with. -/
structure Uart where
  opened : Bool
  equipment : Option Updater
  deriving DecidableEq

/-- The constructor arms the timers; `none` is the `m_Peripheral` that it leaves unset. -/
structure PlcFins where
  peripheral : Option Nat
  deriving DecidableEq

/-- The objects are their positions among those that were made. `registered` is
`m_transcations`. -/
structure Heap where
  plcFins : List PlcFins
  uarts : List Uart
  transcations : Nat
  registered : StdMap Nat Nat

def Heap.empty : Heap where
  plcFins := []
  uarts := []
  transcations := 0
  registered := StdMap.empty

def getMember (value : Json) (name : String) : Except Stop Json :=
  match value.member name with
  | some member => .ok member
  | none => .error .typeError

def getItems (value : Json) : Except Stop (List Json) :=
  match value.items with
  | some elements => .ok elements
  | none => .error .typeError

def isNull : Json → Bool
  | .null => true
  | _ => false

/-- The test of both loaders for a uart. -/
def isUart (peripheralName : String) : Bool := "uart".toList.isPrefixOf peripheralName.toList

/-! ### FunctionManager -/

/-- Where the body of the loop is left: before it makes anything, after the `PlcFins`, after
the `Uart`, or at its end. -/
inductive FunctionExit where
  | skipped
  | plcFinsMade
  | uartMade
  | whole
  deriving DecidableEq

/-- The members are those of one value, so a type error comes with the first of them. -/
def functionUart (uartValue : Json) : Except Stop FunctionExit :=
  (getMember uartValue "devName").bind fun devName =>
    (getMember uartValue "BaudRate").bind fun baudRate =>
      (getMember uartValue "equipNum").bind fun equipNum =>
        match devName.text, baudRate.number with
        | some _, some _ => .ok (if equipNum.number.isSome then .whole else .uartMade)
        | _, _ => .ok .plcFinsMade

def functionExit (value entry : Json) : Except Stop FunctionExit :=
  (getMember entry "name").bind fun name =>
    match kindOf (name.text.getD "") with
    | none => .ok .skipped
    | some _ =>
        (getMember entry "mem_group").bind fun memGroup =>
          (getMember memGroup "cmd_addr").bind fun cmdAddr =>
            (getMember memGroup "data_addr").bind fun dataAddr =>
              match cmdAddr.text, dataAddr.text with
              | some _, some _ =>
                  (getMember entry "peripheral").bind fun peripheral =>
                    match peripheral.text with
                    | none => .ok .plcFinsMade
                    | some peripheralName =>
                        if isUart peripheralName then
                          (getMember value peripheralName).bind functionUart
                        else .ok .plcFinsMade
              | _, _ => .ok .skipped

/-- The names that are left through to `new PlcFins` all have an equipment. -/
def addFunction (opens : Nat → Bool) (heap : Heap) (entry : FunctionExit × Nat) : Heap :=
  match entry.1 with
  | .skipped => heap
  | .plcFinsMade => { heap with plcFins := heap.plcFins ++ [{ peripheral := none }] }
  | .uartMade =>
      { heap with
        plcFins := heap.plcFins ++ [{ peripheral := none }]
        uarts := heap.uarts ++ [{ opened := false, equipment := none }] }
  | .whole =>
      { heap with
        plcFins := heap.plcFins ++ [{ peripheral := some heap.uarts.length }]
        uarts := heap.uarts ++
          [{ opened := opens entry.2, equipment := some (.plcFins heap.plcFins.length) }] }

def functionEntries (value : Json) : Except Stop (List Json) :=
  (getMember value "functions").bind fun functions =>
    if isNull functions then .ok []
    else
      (getMember value "plc0").bind fun plcValue =>
        if isNull plcValue then .ok []
        else
          (getMember plcValue "ip").bind fun ip =>
            (getMember plcValue "port").bind fun port =>
              match ip.text, port.number with
              | some _, some _ => getItems functions
              | _, _ => .ok []

def functionUpdate (opens : Nat → Bool) (heap : Heap) (value : Json) : Except Stop Heap :=
  (functionEntries value).bind fun entries =>
    entries.zipIdx.foldlM
      (fun heap entry =>
        (functionExit value entry.1).map fun exit => addFunction opens heap (exit, entry.2))
      heap

/-! ### TranscationManager -/

/-- Where the body of the inner loop is left: before the `Uart`, after it, or at its end. -/
inductive PeripheralExit where
  | skipped
  | uartMade
  | whole
  deriving DecidableEq

def peripheralUart (uartValue : Json) : Except Stop PeripheralExit :=
  (getMember uartValue "devName").bind fun devName =>
    (getMember uartValue "BaudRate").bind fun baudRate =>
      (getMember uartValue "transcationName").bind fun transcationName =>
        (getMember uartValue "equipNum").bind fun equipNum =>
          match devName.text, baudRate.number with
          | some _, some _ =>
              match transcationName.text, equipNum.number with
              | some strTransName, some _ =>
                  if (kindOf strTransName).isSome then .ok .whole else .error .nullEquipment
              | _, _ => .ok .uartMade
          | _, _ => .ok .skipped

def peripheralExit (value element : Json) : Except Stop PeripheralExit :=
  match element.text with
  | none => .ok .skipped
  | some peripheralName =>
      if isUart peripheralName then (getMember value peripheralName).bind peripheralUart
      else .ok .skipped

/-- A transcation that was made, with where its peripherals were left. -/
structure Made where
  id : Nat
  exits : List PeripheralExit

def ipWhites (host : Host) (size : Nat) (list : Json) : Except Stop (List String) :=
  match Config.ipWhites host size list with
  | some ips => .ok ips
  | none => .error .typeError

/-- The body of the outer loop; `none` is a `continue` in front of the `new`. -/
def transcationEntry (host : Host) (value : Json) (size : Nat) (entry : Json) :
    Except Stop (Option Made) :=
  (getMember entry "transcationId").bind fun transcationId =>
    match transcationId.number with
    | none => .ok none
    | some transcationId =>
        (getMember entry "name").bind fun name =>
          match kindOf (name.text.getD "") with
          | none => .ok none
          | some _ =>
              (getMember value (name.text.getD "")).bind fun _ =>
                (getMember entry "peripherals").bind fun peripherals =>
                  (getItems peripherals).bind fun elements =>
                    (checkAll (peripheralExit value) elements).bind fun exits =>
                      (getMember entry "ipWhiteList").bind fun list =>
                        (ipWhites host size list).map fun _ =>
                          some { id := (transcationId % 2 ^ 32).toNat, exits := exits }

def exitUart (opens : Nat → Bool) (index : Nat) (entry : PeripheralExit × Nat) : Option Uart :=
  match entry.1 with
  | .skipped => none
  | .uartMade => some { opened := false, equipment := none }
  | .whole => some { opened := opens entry.2, equipment := some (.transcation index) }

/-- The transcation with its uarts; `AddTranscation` keeps one that has the id already. -/
def addTranscation (opens : Nat → Nat → Bool) (heap : Heap) (entry : Option Made × Nat) : Heap :=
  match entry.1 with
  | none => heap
  | some made =>
      { heap with
        uarts := heap.uarts ++
          made.exits.zipIdx.filterMap (exitUart (opens entry.2) heap.transcations)
        transcations := heap.transcations + 1
        registered :=
          if made.id ∈ heap.registered.keys then heap.registered
          else heap.registered.insert made.id heap.transcations }

def transcationEntries (host : Host) (value : Json) : Except Stop (List Json) :=
  (getMember value "serverPort").bind fun _ =>
    if serverRuns host value then (getMember value "transcations").bind getItems else .ok []

def transcationUpdate (host : Host) (opens : Nat → Nat → Bool) (heap : Heap) (value : Json) :
    Except Stop Heap :=
  (transcationEntries host value).bind fun entries =>
    entries.zipIdx.foldlM
      (fun heap entry =>
        (transcationEntry host value entries.length entry.1).map fun made =>
          addTranscation opens heap (made, entry.2))
      heap

/-! ### The process -/

/-- One `Update`, with the uarts that open. -/
inductive Load where
  | functions (opens : Nat → Bool) (value : Json)
  | transcations (host : Host) (opens : Nat → Nat → Bool) (value : Json)

def update (heap : Heap) : Load → Except Stop Heap
  | .functions opens value => functionUpdate opens heap value
  | .transcations host opens value => transcationUpdate host opens heap value

inductive Process where
  | running (heap : Heap)
  | stopped (stop : Stop)

def step : Transition.Step Process Load
  | .running heap, load =>
      match update heap load with
      | .ok next => some (.running next)
      | .error stop => some (.stopped stop)
  | .stopped _, _ => none

end DevHub.Loading
