import DevHub.Communication.CommServer

/-!
`TranscationManager::Update`: the transcations that a configuration registers. What is
outside of the value is in `Host`. The answer `none` is a type error of JsonCpp or the
null equipment of a peripheral with an unknown `transcationName`.
-/

namespace DevHub.Config

open Looper TaskUse Transcations CommServer

set_option autoImplicit false

/-- Whether `BuildTcpServer` starts the server, the descriptor that `OpenPeripheral`
leaves in the peripheral at a position of a transcation, and the text of a double. -/
structure Host where
  serverStarts : Bool
  openPeripheral : Nat → Nat → Int
  valueToString : Rat → String

def asString (host : Host) : Json → Option String
  | .null => some ""
  | .string value => some value
  | .bool value => some (if value then "true" else "false")
  | .int value => some (toString value)
  | .uint value => some (toString value)
  | .real value => some (host.valueToString value)
  | .array _ => none
  | .object _ => none

def kindOf (transName : String) : Option Kind :=
  if transName = "balance" then some .balance
  else if transName = "solder" then some .solder
  else if transName = "GlueDispenser" then some .glueDispenser
  else none

/-- `value[transName]`: only an array has names, and only its strings are some. -/
def commandNames (value : Json) (transName : String) : Option (List String) :=
  (value.member transName).map fun list =>
    match list with
    | .array elements => elements.filterMap Json.text
    | _ => []

/-- A `uart` of the configuration; `some none` is a member that is missing or of another
type. -/
def buildUart (uartValue : Json) (fd : Int) : Option (Option Peripheral) :=
  (uartValue.member "devName").bind fun devName =>
    (uartValue.member "BaudRate").bind fun baudRate =>
      (uartValue.member "transcationName").bind fun transcationName =>
        (uartValue.member "equipNum").bind fun equipNum =>
          match devName.text, baudRate.number, transcationName.text, equipNum.number with
          | some _, some _, some strTransName, some equipNum =>
              (kindOf strTransName).map fun _ =>
                some { equipmentName := strTransName, equipmentNo := equipNum, fd := fd }
          | _, _, _, _ => some none

/-- An element of `peripherals`; those with another name than `uart...` are ignored. -/
def buildPeripheral (value : Json) (fd : Int) (element : Json) : Option (Option Peripheral) :=
  match element.text with
  | none => some none
  | some peripheralName =>
      if "uart".toList.isPrefixOf peripheralName.toList then
        (value.member peripheralName).bind fun uartValue => buildUart uartValue fd
      else some none

def buildPeripherals (host : Host) (value : Json) (i : Nat) (list : Json) :
    Option (List Peripheral) :=
  list.items.bind fun elements =>
    (elements.zipIdx.mapM fun element =>
      buildPeripheral value (host.openPeripheral i element.2) element.1).map
        (List.filterMap fun peripheral => peripheral)

/-- The bound `size` of this loop is the number of transcations. -/
def ipWhites (host : Host) (size : Nat) (list : Json) : Option (List String) :=
  (List.range size).mapM fun j => (list.element j).bind (asString host)

def entryId (entry : Json) : Option Nat :=
  match (entry.member "transcationId").bind Json.number,
    ((entry.member "name").map fun name => name.text.getD "").bind kindOf with
  | some transcationId, some _ => some (transcationId % 2 ^ 32).toNat
  | _, _ => none

/-- The body of the loop up to `AddTranscation`; `some none` is a `continue`. -/
def buildTranscation (host : Host) (value : Json) (size i : Nat) (entry : Json) :
    Option (Option (Nat × Transcation)) :=
  (entry.member "transcationId").bind fun transcationId =>
    match transcationId.number with
    | none => some none
    | some transcationId =>
        (entry.member "name").bind fun name =>
          let transName := name.text.getD ""
          match kindOf transName with
          | none => some none
          | some kind =>
              (commandNames value transName).bind fun commands =>
                ((entry.member "peripherals").bind (buildPeripherals host value i)).bind
                  fun peripherals =>
                    ((entry.member "ipWhiteList").bind (ipWhites host size)).map fun ips =>
                      some ((transcationId % 2 ^ 32).toNat,
                        { kind := kind
                          transName := transName
                          task := none
                          commandNames := commands
                          ipWhiteList := ips
                          peripherals := peripherals })

/-- An id that is there already keeps its transcation. -/
def addTranscation (transcations : StdMap Nat Transcation) (id : Nat) (tc : Transcation) :
    StdMap Nat Transcation :=
  if id ∈ transcations.keys then transcations else transcations.insert id tc

def updateOne (host : Host) (value : Json) (size : Nat) (transcations : StdMap Nat Transcation)
    (entry : Json × Nat) : Option (StdMap Nat Transcation) :=
  (buildTranscation host value size entry.2 entry.1).map fun built =>
    match built with
    | none => transcations
    | some (id, tc) => addTranscation transcations id tc

/-- The server is started before the transcations are read. -/
def serverRuns (host : Host) (value : Json) : Bool :=
  ((value.member "serverPort").bind Json.number).isSome && host.serverStarts

def arrayTranscation (value : Json) : Option (List Json) :=
  (value.member "transcations").bind Json.items

/-- The registry was empty before. -/
def update (host : Host) (value : Json) : Option (StdMap Nat Transcation) :=
  (value.member "serverPort").bind fun _ =>
    if serverRuns host value then
      (arrayTranscation value).bind fun entries =>
        entries.zipIdx.foldlM (updateOne host value entries.length) StdMap.empty
    else some StdMap.empty

end DevHub.Config
