import Mathlib.Data.Nat.Bitwise
import DevHub.Modbus.Bounds

/-!
What a device is for: bits and registers that stand at addresses, and requests that read or
write a range of them. `modbus_reply` serves the request that the bytes before it say, and
the response it builds says what the device answered.
-/

namespace DevHub.Modbus

open AddressSpace Packed

set_option autoImplicit false

/-! ### The device and its requests -/

structure Device where
  coils : Space Bool
  inputs : Space Bool
  holding : Space UInt16
  inputRegisters : Space UInt16

/-- A bit that is written is given as one of two words, and the values of a write and read with a
count of their own. -/
inductive Request where
  | readBits (input : Bool) (address count : Nat)
  | readRegisters (input : Bool) (address count : Nat)
  | writeBit (address : Nat) (value : Option Bool)
  | writeRegister (address : Nat) (value : UInt16)
  | writeBits (address : Nat) (values : List Bool)
  | writeRegisters (address : Nat) (values : List UInt16)
  | maskWrite (address : Nat) (and or : UInt16)
  | writeAndRead (writeAddress : Nat) (values : List UInt16) (counted : Bool)
      (address count : Nat)
  | slaveId
  | exceptionStatus
  | other

inductive Response where
  | bits (values : List Bool)
  | registers (values : List UInt16)
  | echo
  | written (count : Nat)
  | slaveId
  | exception (code : UInt8) (flush : Bool)
  | nothing

namespace Device

variable (device : Device)

def bitSpace (input : Bool) : Space Bool := if input then device.inputs else device.coils

def registerSpace (input : Bool) : Space UInt16 :=
  if input then device.inputRegisters else device.holding

def refused {α : Type} (space : Space α) (maxNb : Int) (address count : Nat) : Option Response :=
  if count < 1 ∨ maxNb < count then some (.exception exceptionIllegalDataValue true)
  else if (readRange space address count).isNone then
    some (.exception exceptionIllegalDataAddress false)
  else none

def readFrom {α : Type} (space : Space α) (maxNb : Int) (address count : Nat)
    (answer : List α → Response) : Device × Response :=
  (device, (refused space maxNb address count).getD
    (answer ((readRange space address count).getD [])))

def writeTo {α : Type} (space : Space α) (maxNb : Int) (address : Nat) (values : List α)
    (left : Space α → Device) : Device × Response :=
  match refused space maxNb address values.length with
  | some response => (device, response)
  | none => (left (writeRange space address values), .written values.length)

/-- A write of one place answers with the request itself. -/
def writeOne {α : Type} (space : Space α) (address : Nat) (value : α → Option α)
    (left : Space α → Device) : Device × Response :=
  match space address with
  | none => (device, .exception exceptionIllegalDataAddress false)
  | some old =>
      match value old with
      | none => (device, .exception exceptionIllegalDataValue false)
      | some new => (left (writeRange space address [new]), .echo)

/-- Registers are written first, and then read. -/
def exchange (writeAddress : Nat) (values : List UInt16) (counted : Bool)
    (address count : Nat) : Device × Response :=
  if values.length < 1 ∨ maxWrWriteRegisters < values.length ∨ count < 1 ∨
      maxWrReadRegisters < count ∨ counted = false then
    (device, .exception exceptionIllegalDataValue true)
  else if (readRange device.holding address count).isNone ∨
      (readRange device.holding writeAddress values.length).isNone then
    (device, .exception exceptionIllegalDataAddress false)
  else
    let written := writeRange device.holding writeAddress values
    ({ device with holding := written },
      .registers ((readRange written address count).getD []))

def serve : Request → Device × Response
  | .readBits input address count =>
      device.readFrom (device.bitSpace input) maxReadBits address count .bits
  | .readRegisters input address count =>
      device.readFrom (device.registerSpace input) maxReadRegisters address count .registers
  | .writeBit address value =>
      device.writeOne device.coils address (fun _ => value) fun coils =>
        { device with coils := coils }
  | .writeRegister address value =>
      device.writeOne device.holding address (fun _ => some value) fun holding =>
        { device with holding := holding }
  | .writeBits address values =>
      device.writeTo device.coils maxWriteBits address values fun coils =>
        { device with coils := coils }
  | .writeRegisters address values =>
      device.writeTo device.holding maxWriteRegisters address values fun holding =>
        { device with holding := holding }
  | .maskWrite address and or =>
      device.writeOne device.holding address (fun old => some (old &&& and ||| or &&& ~~~and))
        fun holding => { device with holding := holding }
  | .writeAndRead writeAddress values counted address count =>
      device.exchange writeAddress values counted address count
  | .slaveId => (device, .slaveId)
  | .exceptionStatus => (device, .nothing)
  | .other => (device, .exception exceptionIllegalFunction true)

end Device

/-! ### What the bytes say -/

section Bytes

variable (backend : Backend) (req : List UInt8)

def bitAt (i : Nat) : Bool :=
  (byteAt req (backend.headerLength + 6 + i / 8)).toNat.testBit (i % 8)

def bitWord (data : Nat) : Option Bool :=
  if data = 0xFF00 then some true else if data = 0 then some false else none

def requestAt : Request :=
  let address := reqAddress backend req
  let nb := reqNb backend req
  match FunctionCode.ofByte (byteAt req backend.headerLength) with
  | some .readCoils => .readBits false address nb
  | some .readDiscreteInputs => .readBits true address nb
  | some .readHoldingRegisters => .readRegisters false address nb
  | some .readInputRegisters => .readRegisters true address nb
  | some .writeSingleCoil => .writeBit address (bitWord nb)
  | some .writeSingleRegister => .writeRegister address (UInt16.ofNat nb)
  | some .writeMultipleCoils => .writeBits address ((List.range nb).map (bitAt backend req))
  | some .writeMultipleRegisters => .writeRegisters address (registersAt backend req 6 nb)
  | some .reportSlaveId => .slaveId
  | some .readExceptionStatus => .exceptionStatus
  | some .maskWriteRegister =>
      .maskWrite address (UInt16.ofNat nb) (UInt16.ofNat (wordAt req (backend.headerLength + 5)))
  | some .writeAndReadRegisters =>
      let nbWrite := wordAt req (backend.headerLength + 7)
      .writeAndRead (wordAt req (backend.headerLength + 5)) (registersAt backend req 10 nbWrite)
        ((byteAt req (backend.headerLength + 9)).toNat = nbWrite * 2) address nb
  | none => .other

variable (sft : Sft) (reqLength : Nat)

def Response.rsp : Response → Except Errno (List UInt8)
  | .bits values =>
      .ok (buildResponseBasis backend sft ++ UInt8.ofNat (byteCount values.length) :: pack values)
  | .registers values =>
      .ok (buildResponseBasis backend sft ++
        UInt8.ofNat (values.length <<< 1) :: values.flatMap registerBytes)
  | .echo => .ok (req.take reqLength)
  | .written _ => .ok (buildResponseBasis backend sft ++ (req.drop (backend.headerLength + 1)).take 4)
  | .slaveId =>
      .ok (buildResponseBasis backend sft ++ UInt8.ofNat slaveIdText.length :: slaveIdText)
  | .exception code _ =>
      .ok (buildResponseBasis backend { sft with function := sft.function + 0x80 } ++ [code])
  | .nothing => .error .enoprotoopt

def Response.flush : Response → Bool
  | .exception _ flush => flush
  | _ => false

end Bytes

/-! ### The mapping as a device -/

def isOn (status : UInt8) : Bool := status ≠ 0

def Mapping.device (mapping : Mapping) : Device where
  coils := mapSpace isOn mapping.bits.space
  inputs := mapSpace isOn mapping.inputBits.space
  holding := mapping.registers.space
  inputRegisters := mapping.inputRegisters.space

/-- Every status of a table is `OFF` or `ON`. -/
def Clean (table : Table UInt8) : Prop := ∀ status ∈ table.tab, status = 0 ∨ status = 1

/-- What no request changes of a mapping. -/
structure Kept (before after : Mapping) : Prop where
  bits : after.bits.shape = before.bits.shape
  inputBits : after.inputBits = before.inputBits
  registers : after.registers.shape = before.registers.shape
  inputRegisters : after.inputRegisters = before.inputRegisters
  clean : Clean before.bits → Clean after.bits

theorem kept_refl (mapping : Mapping) : Kept mapping mapping := ⟨rfl, rfl, rfl, rfl, id⟩

theorem kept_trans {first second third : Mapping} (one : Kept first second)
    (two : Kept second third) : Kept first third where
  bits := two.bits.trans one.bits
  inputBits := two.inputBits.trans one.inputBits
  registers := two.registers.trans one.registers
  inputRegisters := two.inputRegisters.trans one.inputRegisters
  clean := two.clean ∘ one.clean

/-! ### Bits in bytes -/

theorem byte_count_eq (nb : Nat) : byteCount nb = (nb + 7) / 8 := by
  rw [byteCount]
  split <;> omega

theorem bit_test (byte : UInt8) {shift : Nat} (small : shift < 8) :
    byte &&& UInt8.ofNat (1 <<< shift) ≠ 0 ↔ byte.toNat.testBit shift = true := by
  have power : (UInt8.ofNat (1 <<< shift)).toNat = 2 ^ shift := by
    have fits : 2 ^ shift < 2 ^ 8 := Nat.pow_lt_pow_right (by decide) small
    rw [Nat.one_shiftLeft, UInt8.toNat_ofNat', Nat.mod_eq_of_lt fits]
  rw [Ne, ← UInt8.toNat_inj, UInt8.toNat_and, power, Nat.and_two_pow]
  have positive : 0 < 2 ^ shift := Nat.two_pow_pos shift
  cases byte.toNat.testBit shift with
  | false => simp
  | true => simp

def status (on : Bool) : UInt8 := if on then 1 else 0

theorem status_on (on : Bool) : isOn (status on) = on := by
  cases on <;> rfl

theorem set_bits_range (tabByte : Nat → UInt8) (nbBits i : Nat) :
    setBitsFromBytes tabByte nbBits i (i % 8) =
      (List.range nbBits).map fun k =>
        status ((tabByte ((i + k) / 8)).toNat.testBit ((i + k) % 8)) := by
  induction nbBits generalizing i with
  | zero => rfl
  | succ nbBits ih =>
      have next : (i % 8 + 1) % 8 = (i + 1) % 8 := by omega
      rw [setBitsFromBytes, next, ih, List.range_succ_eq_map, List.map_cons, List.map_map,
        Nat.add_zero]
      congr 1
      · rw [status]
        exact if_congr (bit_test _ (Nat.mod_lt _ (by decide))) rfl rfl
      · apply List.map_congr_left
        intro k _
        rw [Function.comp_apply, Nat.succ_eq_add_one, Nat.add_assoc, Nat.add_comm 1 k]

theorem response_io_status_pack {statuses : List UInt8}
    (clean : ∀ status ∈ statuses, status = 0 ∨ status = 1) (filled : List Bool)
    (room : filled.length < 8) :
    responseIoStatus statuses filled.length (number filled) = pack (filled ++ statuses.map isOn) := by
  induction statuses generalizing filled with
  | nil =>
      rw [responseIoStatus, List.map_nil, List.append_nil]
      by_cases empty : filled = []
      · subst empty
        rw [pack_nil]
        rfl
      · have some : filled.length ≠ 0 := fun zero => empty (List.length_eq_zero_iff.mp zero)
        rw [if_pos some, pack_last empty (Nat.le_of_lt room), byteOfBits]
  | cons first rest ih =>
      have later : ∀ status ∈ rest, status = 0 ∨ status = 1 := fun status inside =>
        clean status (List.mem_cons_of_mem _ inside)
      have stored : first.toNat = (isOn first).toNat := by
        rcases clean first (List.mem_cons_self ..) with rfl | rfl <;> rfl
      have longer : (filled ++ [isOn first]).length = filled.length + 1 := by simp
      have next : number filled ||| first.toNat <<< filled.length =
          number (filled ++ [isOn first]) := by
        rw [number_append, number_cons, number_nil, stored, Nat.shiftLeft_eq, Nat.or_comm,
          Nat.mul_comm, ← Nat.two_pow_add_eq_or_of_lt (number_lt filled), Nat.mul_zero,
          Nat.add_zero, Nat.add_comm]
      have front : filled ++ isOn first :: rest.map isOn =
          filled ++ [isOn first] ++ rest.map isOn := by simp
      rw [responseIoStatus, next, List.map_cons, front]
      by_cases full : filled.length = 7
      · have start := ih later [] (by decide)
        rw [List.length_nil, number_nil, List.nil_append] at start
        rw [if_pos full, start, pack_byte (by omega), byteOfBits]
      · rw [if_neg full, ← longer]
        exact ih later _ (by omega)

/-! ### The server serves -/

theorem device_coils {mapping : Mapping} {bits : Table UInt8} {address : Nat}
    {values : List UInt8} (wrote : bits.space = writeRange mapping.bits.space address values) :
    ({ mapping with bits := bits } : Mapping).device =
      { mapping.device with
        coils := writeRange mapping.device.coils address (values.map isOn) } := by
  rw [Mapping.device, wrote, write_map]
  rfl

theorem device_registers {mapping : Mapping} {registers : Table UInt16} {address : Nat}
    {values : List UInt16}
    (wrote : registers.space = writeRange mapping.registers.space address values) :
    ({ mapping with registers := registers } : Mapping).device =
      { mapping.device with
        holding := writeRange mapping.device.holding address values } := by
  rw [Mapping.device, wrote]
  rfl

namespace Table

theorem set_mem {α : Type} {table next : Table α} {i : Int} {value : α}
    (done : table.set i value = some next) {stored : α} (inside : stored ∈ next.tab) :
    stored ∈ table.tab ∨ stored = value := by
  rw [set] at done
  split at done
  · cases done
    exact List.mem_or_eq_of_mem_set inside
  · cases done

theorem set_all_mem {α : Type} {table next : Table α} {i : Int} {values : List α}
    (done : table.setAll i values = some next) {stored : α} (inside : stored ∈ next.tab) :
    stored ∈ table.tab ∨ stored ∈ values := by
  induction values generalizing table i with
  | nil =>
      cases done
      exact .inl inside
  | cons value rest ih =>
      rw [setAll, Option.bind_eq_some_iff] at done
      obtain ⟨middle, first, later⟩ := done
      rcases ih later with before | written
      · rcases set_mem first before with old | new
        · exact .inl old
        · exact .inr (new ▸ List.mem_cons_self ..)
      · exact .inr (List.mem_cons_of_mem _ written)

theorem get_all_mem {α : Type} {table : Table α} {i : Int} {count : Nat} {values : List α}
    (known : table.getAll i count = some values) {value : α} (inside : value ∈ values) :
    value ∈ table.tab := by
  induction count generalizing i values with
  | zero =>
      cases known
      cases inside
  | succ count ih =>
      rw [getAll, Option.bind_eq_some_iff] at known
      obtain ⟨first, here, later⟩ := known
      obtain ⟨rest, same, rfl⟩ := Option.map_eq_some_iff.mp later
      rcases List.mem_cons.mp inside with rfl | behind
      · rw [get] at here
        split at here
        · cases here
        · exact List.mem_of_getElem? here
      · exact ih same behind

end Table

section Serves

variable {backend : Backend} {sft : Sft} {req : List UInt8} {reqLength : Nat} {mapping : Mapping}

/-- A reply does what the device does, and says what it answers. -/
structure Serves (backend : Backend) (sft : Sft) (req : List UInt8) (reqLength : Nat)
    (mapping : Mapping) (served : Device × Response) (reply : Reply) : Prop where
  device : reply.mapping.device = served.1
  rsp : reply.rsp = served.2.rsp backend req sft reqLength
  flush : reply.flush = served.2.flush
  kept : Kept mapping reply.mapping

theorem exception_serves {code : UInt8} {flush : Bool} {reply : Reply}
    (replied : responseException backend sft mapping code flush = some reply) :
    Serves backend sft req reqLength mapping (mapping.device, .exception code flush) reply := by
  cases replied
  exact ⟨rfl, rfl, rfl, kept_refl mapping⟩

theorem refused_quantity {α : Type} (space : Space α) {maxNb : Int} {address count : Nat}
    (wrong : (count : Int) < 1 ∨ maxNb < count) :
    Device.refused space maxNb address count = some (.exception exceptionIllegalDataValue true) :=
  if_pos (by omega)

theorem refused_address {α : Type} {space : Space α} {maxNb : Int} {address count : Nat}
    (right : ¬ ((count : Int) < 1 ∨ maxNb < count))
    (missing : readRange space address count = none) :
    Device.refused space maxNb address count =
      some (.exception exceptionIllegalDataAddress false) := by
  rw [Device.refused, if_neg (by omega), if_pos (by rw [missing]; rfl)]

theorem not_refused {α : Type} {space : Space α} {maxNb : Int} {address count : Nat}
    {values : List α} (right : ¬ ((count : Int) < 1 ∨ maxNb < count))
    (present : readRange space address count = some values) :
    Device.refused space maxNb address count = none := by
  rw [Device.refused, if_neg (by omega), if_neg (by rw [present]; exact Bool.false_ne_true)]

variable (reqLength) in
/-- A read of a table is a read of the space that its values, seen through `f`, make. -/
theorem read_serves {α β : Type} (f : α → β) {table : Table α} {maxNb : Int}
    {body : Nat → List α → List UInt8} (answer : List β → Response) {reply : Reply}
    (answers : ∀ values, (∀ value ∈ values, value ∈ table.tab) →
      (answer (values.map f)).rsp backend req sft reqLength =
        .ok (buildResponseBasis backend sft ++ body values.length values))
    (calm : ∀ values, (answer values).flush = false)
    (replied : replyRead backend sft req mapping table maxNb body = some reply) :
    Serves backend sft req reqLength mapping
      (mapping.device.readFrom (mapSpace f table.space) maxNb (reqAddress backend req)
        (reqNb backend req) answer) reply := by
  rw [replyRead] at replied
  rw [Device.readFrom]
  split at replied
  · rename_i wrong
    rw [refused_quantity _ (by omega), Option.getD_some]
    exact exception_serves replied
  · rename_i right
    split at replied
    · rename_i outside
      have missing := (Table.outside_iff table _ _ (by omega)).mp outside
      rw [refused_address (by omega) (by rw [read_map, missing]; rfl), Option.getD_some]
      exact exception_serves replied
    · obtain ⟨values, known, rfl⟩ := Option.map_eq_some_iff.mp replied
      have length := Table.get_all_length known
      have present : readRange (mapSpace f table.space) (reqAddress backend req)
          (reqNb backend req) = some (values.map f) := by
        rw [read_map, Table.read_space, known]
        rfl
      rw [not_refused (by omega) present, present, Option.getD_none, Option.getD_some]
      refine ⟨rfl, ?_, (calm _).symm, kept_refl mapping⟩
      rw [answers values fun value inside => Table.get_all_mem known inside, length]

theorem map_space_id {α : Type} (space : Space α) : mapSpace id space = space := by
  funext place
  rw [mapSpace, Option.map_id]
  rfl

variable (reqLength) in
theorem write_serves {α β : Type} (f : α → β) {table : Table α} {maxNb : Int}
    {values : Nat → List α} {left : Table α → Mapping} (device : Space β → Device)
    {shown : List β} {reply : Reply} (count : ∀ nb, (values nb).length = nb)
    (seen : (values (reqNb backend req)).map f = shown)
    (effect : ∀ next, next.space =
        writeRange table.space (reqAddress backend req) (values (reqNb backend req)) →
      (left next).device = device (writeRange (mapSpace f table.space) (reqAddress backend req) shown))
    (keeps : ∀ next i, table.setAll i (values (reqNb backend req)) = some next →
      next.shape = table.shape → Kept mapping (left next))
    (replied : replyWriteMultiple backend sft req mapping table maxNb values left = some reply) :
    Serves backend sft req reqLength mapping
      (mapping.device.writeTo (mapSpace f table.space) maxNb (reqAddress backend req) shown device)
      reply := by
  have length : shown.length = reqNb backend req := by
    rw [← seen, List.length_map, count]
  rw [replyWriteMultiple] at replied
  rw [Device.writeTo, length]
  split at replied
  · rename_i wrong
    rw [refused_quantity _ (by omega)]
    exact exception_serves replied
  · rename_i right
    split at replied
    · rename_i outside
      have missing := (Table.outside_iff table _ _ (by omega)).mp outside
      rw [refused_address (by omega) (by rw [read_map, missing]; rfl)]
      exact exception_serves replied
    · rename_i inside
      have reachable : readRange table.space (reqAddress backend req) (reqNb backend req) ≠ none :=
        fun missing => inside ((Table.outside_iff table _ _ (by omega)).mpr missing)
      obtain ⟨old, present⟩ := Option.ne_none_iff_exists'.mp reachable
      obtain ⟨next, done, rfl⟩ := Option.map_eq_some_iff.mp replied
      obtain ⟨wrote, same⟩ := Table.set_all_space done
      have seenOld : readRange (mapSpace f table.space) (reqAddress backend req)
          (reqNb backend req) = some (old.map f) := by
        rw [read_map, present]
        rfl
      rw [not_refused (by omega) seenOld]
      exact ⟨effect next wrote, rfl, rfl, keeps next _ done same⟩

theorem coils_kept {next : Table UInt8} (same : next.shape = mapping.bits.shape)
    (clean : ∀ stored ∈ next.tab, stored ∈ mapping.bits.tab ∨ stored = 0 ∨ stored = 1) :
    Kept mapping { mapping with bits := next } where
  bits := same
  inputBits := rfl
  registers := rfl
  inputRegisters := rfl
  clean before stored inside := (clean stored inside).elim (before stored) id

theorem registers_kept {next : Table UInt16} (same : next.shape = mapping.registers.shape) :
    Kept mapping { mapping with registers := next } :=
  ⟨rfl, rfl, same, rfl, id⟩

theorem place_missing {α : Type} (table : Table α) (address : Nat) :
    ((address : Int) - table.start < 0 ∨ (address : Int) - table.start ≥ table.tab.length) ↔
      table.space address = none := by
  rw [Table.space, ← Option.not_isSome_iff_eq_none, Table.get_is_some_iff]
  omega

theorem place_present {α : Type} {table : Table α} {address : Nat}
    (inside : ¬ ((address : Int) - table.start < 0 ∨
      (address : Int) - table.start ≥ table.tab.length)) :
    ∃ old, table.space address = some old :=
  Option.ne_none_iff_exists'.mp fun missing => inside ((place_missing table address).mpr missing)

theorem write_single_coil_serves {reply : Reply}
    (replied : replyWriteSingleCoil backend sft req reqLength mapping = some reply) :
    Serves backend sft req reqLength mapping
      (mapping.device.serve (.writeBit (reqAddress backend req) (bitWord (reqNb backend req))))
      reply := by
  rw [replyWriteSingleCoil] at replied
  rw [Device.serve, Device.writeOne]
  split at replied
  · rename_i outside
    have missing : mapping.device.coils (reqAddress backend req) = none := by
      simp only [Mapping.device, mapSpace, (place_missing mapping.bits _).mp outside,
        Option.map_none]
    rw [missing]
    exact exception_serves replied
  · rename_i inside
    obtain ⟨old, present⟩ := place_present inside
    have here : mapping.device.coils (reqAddress backend req) = some (isOn old) := by
      simp only [Mapping.device, mapSpace, present, Option.map_some]
    rw [here]
    dsimp only at replied ⊢
    split at replied
    · rename_i allowed
      obtain ⟨next, done, rfl⟩ := Option.map_eq_some_iff.mp replied
      obtain ⟨wrote, same⟩ := Table.set_space done
      have word : bitWord (reqNb backend req) =
          some (isOn (if reqNb backend req ≠ 0 then 1 else 0)) := by
        rcases allowed with on | off
        · rw [on]
          rfl
        · rw [off]
          rfl
      rw [word]
      refine ⟨device_coils wrote, rfl, rfl, coils_kept same fun stored inside => ?_⟩
      rcases Table.set_mem done inside with before | written
      · exact .inl before
      · rw [written]
        split
        · exact .inr (.inr rfl)
        · exact .inr (.inl rfl)
    · rename_i illegal
      rw [not_or] at illegal
      have word : bitWord (reqNb backend req) = none := by
        rw [bitWord, if_neg illegal.1, if_neg illegal.2]
      rw [word]
      exact exception_serves replied

theorem write_single_register_serves {reply : Reply}
    (replied : replyWriteSingleRegister backend sft req reqLength mapping = some reply) :
    Serves backend sft req reqLength mapping
      (mapping.device.serve
        (.writeRegister (reqAddress backend req) (UInt16.ofNat (reqNb backend req)))) reply := by
  rw [replyWriteSingleRegister] at replied
  rw [Device.serve, Device.writeOne]
  split at replied
  · rename_i outside
    have missing : mapping.device.holding (reqAddress backend req) = none :=
      (place_missing mapping.registers _).mp outside
    rw [missing]
    exact exception_serves replied
  · rename_i inside
    obtain ⟨old, present⟩ := place_present inside
    have here : mapping.device.holding (reqAddress backend req) = some old := present
    obtain ⟨next, done, rfl⟩ := Option.map_eq_some_iff.mp replied
    obtain ⟨wrote, same⟩ := Table.set_space done
    rw [here]
    exact ⟨device_registers wrote, rfl, rfl, registers_kept same⟩

theorem mask_write_serves {reply : Reply}
    (replied : replyMaskWriteRegister backend sft req reqLength mapping = some reply) :
    Serves backend sft req reqLength mapping
      (mapping.device.serve (.maskWrite (reqAddress backend req)
        (UInt16.ofNat (reqNb backend req))
        (UInt16.ofNat (wordAt req (backend.headerLength + 5))))) reply := by
  rw [replyMaskWriteRegister] at replied
  rw [Device.serve, Device.writeOne]
  split at replied
  · rename_i outside
    have missing : mapping.device.holding (reqAddress backend req) = none :=
      (place_missing mapping.registers _).mp outside
    rw [missing]
    exact exception_serves replied
  · obtain ⟨old, present, replied⟩ := Option.bind_eq_some_iff.mp replied
    have here : mapping.device.holding (reqAddress backend req) = some old := present
    obtain ⟨next, done, rfl⟩ := Option.map_eq_some_iff.mp replied
    obtain ⟨wrote, same⟩ := Table.set_space done
    rw [here]
    exact ⟨device_registers wrote, rfl, rfl, registers_kept same⟩

theorem write_and_read_serves {reply : Reply}
    (inside : ¬ WritesBelow backend req mapping)
    (function : FunctionCode.ofByte (byteAt req backend.headerLength) = some .writeAndReadRegisters)
    (replied : replyWriteAndReadRegisters backend sft req mapping = some reply) :
    Serves backend sft req reqLength mapping (mapping.device.serve (requestAt backend req)) reply := by
  have length := registers_at_length backend req 10
    (wordAt req (backend.headerLength + 7))
  rw [requestAt, function]
  dsimp only
  rw [Device.serve, Device.exchange, length]
  rw [replyWriteAndReadRegisters] at replied
  split at replied
  · rename_i wrong
    rw [if_pos (by simp only [decide_eq_false_iff_not]; omega)]
    exact exception_serves replied
  · rename_i right
    rw [if_neg (by simp only [decide_eq_false_iff_not]; omega)]
    have reads := Table.outside_iff mapping.registers (reqAddress backend req)
      (reqNb backend req) (by omega)
    have writes := Table.outside_iff mapping.registers (wordAt req (backend.headerLength + 5))
      (wordAt req (backend.headerLength + 7)) (by omega)
    have holding : mapping.registers.space = mapping.device.holding := rfl
    have refused := or_congr reads writes
    rw [← Option.isNone_iff_eq_none, ← Option.isNone_iff_eq_none, holding] at refused
    split at replied
    · rename_i outside
      rw [if_pos (refused.mp (by omega))]
      exact exception_serves replied
    · rename_i checked
      have above : ¬ (wordAt req (backend.headerLength + 5) : Int) - mapping.registers.start < 0 := by
        intro below
        apply inside
        exact ⟨function, by omega, by omega, by omega, by omega, by omega, by omega⟩
      rw [if_neg (fun missing => checked (by have := refused.mpr missing; omega))]
      obtain ⟨next, done, replied⟩ := Option.bind_eq_some_iff.mp replied
      obtain ⟨values, known, rfl⟩ := Option.map_eq_some_iff.mp replied
      obtain ⟨wrote, same⟩ := Table.set_all_space done
      have start : next.start = mapping.registers.start := congrArg Prod.fst same
      have found : readRange next.space (reqAddress backend req) (reqNb backend req) =
          some values := by
        rw [Table.read_space, start, known]
      rw [wrote, holding] at found
      dsimp only
      rw [found, Option.getD_some]
      refine ⟨device_registers wrote, ?_, rfl, registers_kept same⟩
      rw [Response.rsp, Table.get_all_length known]

theorem write_coils_serves {reply : Reply}
    (replied : replyWriteMultipleCoils backend sft req mapping = some reply) :
    Serves backend sft req reqLength mapping
      (mapping.device.serve (.writeBits (reqAddress backend req)
        ((List.range (reqNb backend req)).map (bitAt backend req)))) reply := by
  have stored := set_bits_range (fun i => byteAt req (backend.headerLength + 6 + i))
    (reqNb backend req) 0
  simp only [Nat.zero_mod, Nat.zero_add] at stored
  have count (nb : Nat) : (setBitsFromBytes
      (fun i => byteAt req (backend.headerLength + 6 + i)) nb 0 0).length = nb :=
    set_bits_length _ _ _ _
  have seen : (setBitsFromBytes (fun i => byteAt req (backend.headerLength + 6 + i))
      (reqNb backend req) 0 0).map isOn =
      (List.range (reqNb backend req)).map (bitAt backend req) := by
    rw [stored, List.map_map]
    exact List.map_congr_left fun i _ => status_on _
  refine write_serves _ isOn (fun coils => { mapping.device with coils := coils })
    count seen (fun next wrote => ?_) (fun next i done same => ?_) replied
  · rw [device_coils wrote, seen]
    rfl
  · refine coils_kept same fun value inside => ?_
    rcases Table.set_all_mem done inside with before | written
    · exact .inl before
    · rw [stored, List.mem_map] at written
      obtain ⟨i, -, rfl⟩ := written
      rw [status]
      split
      · exact .inr (.inr rfl)
      · exact .inr (.inl rfl)

theorem write_registers_serves {reply : Reply}
    (replied : replyWriteMultipleRegisters backend sft req mapping = some reply) :
    Serves backend sft req reqLength mapping
      (mapping.device.serve (.writeRegisters (reqAddress backend req)
        (registersAt backend req 6 (reqNb backend req)))) reply := by
  have served := write_serves reqLength id (fun holding => { mapping.device with holding := holding })
    (registers_at_length backend req 6) (List.map_id _)
    (fun next wrote => by rw [device_registers wrote, map_space_id]; rfl)
    (fun next i _ same => registers_kept same) replied
  rw [map_space_id] at served
  exact served

theorem read_bits_serves {table : Table UInt8} (clean : Clean table) {reply : Reply}
    (replied : replyReadBits backend sft req mapping table = some reply) :
    Serves backend sft req reqLength mapping
      (mapping.device.readFrom (mapSpace isOn table.space) maxReadBits (reqAddress backend req)
        (reqNb backend req) .bits) reply := by
  refine read_serves _ isOn .bits (fun values inside => ?_) (fun _ => rfl) replied
  have packed := response_io_status_pack (fun value member => clean value (inside value member))
    [] (by decide)
  rw [List.length_nil, number_nil, List.nil_append] at packed
  rw [Response.rsp, List.length_map, packed]

theorem read_registers_serves {table : Table UInt16} {reply : Reply}
    (replied : replyReadRegisters backend sft req mapping table = some reply) :
    Serves backend sft req reqLength mapping
      (mapping.device.readFrom table.space maxReadRegisters (reqAddress backend req)
        (reqNb backend req) .registers) reply := by
  have served := read_serves reqLength id .registers
    (fun values _ => by rw [List.map_id]; rfl) (fun _ => rfl) replied
  rw [map_space_id] at served
  exact served

theorem reply_rsp_serves (inside : ¬ WritesBelow backend req mapping)
    (cleanBits : Clean mapping.bits) (cleanInputs : Clean mapping.inputBits) {reply : Reply}
    (replied : modbusReplyRsp backend req reqLength mapping = some reply) :
    Serves backend (reqSft backend req) req (reqLength - backend.checksumLength) mapping
      (mapping.device.serve (requestAt backend req)) reply := by
  have function : (reqSft backend req).function = byteAt req backend.headerLength := rfl
  rw [modbusReplyRsp, function] at replied
  cases known : FunctionCode.ofByte (byteAt req backend.headerLength) with
  | none =>
      rw [known] at replied
      rw [requestAt, known]
      exact exception_serves replied
  | some code =>
      by_cases both : code = .writeAndReadRegisters
      · subst both
        rw [known] at replied
        exact write_and_read_serves inside known replied
      · rw [known] at replied
        rw [requestAt, known]
        cases code with
        | readCoils => exact read_bits_serves cleanBits replied
        | readDiscreteInputs => exact read_bits_serves cleanInputs replied
        | readHoldingRegisters => exact read_registers_serves replied
        | readInputRegisters => exact read_registers_serves replied
        | writeSingleCoil => exact write_single_coil_serves replied
        | writeSingleRegister => exact write_single_register_serves replied
        | readExceptionStatus =>
            cases replied
            exact ⟨rfl, rfl, rfl, kept_refl mapping⟩
        | writeMultipleCoils => exact write_coils_serves replied
        | writeMultipleRegisters => exact write_registers_serves replied
        | reportSlaveId =>
            cases replied
            exact ⟨rfl, rfl, rfl, kept_refl mapping⟩
        | maskWriteRegister => exact mask_write_serves replied
        | writeAndReadRegisters => exact absurd rfl both

end Serves

/-! ### Runs of a server -/

/-- What a server sends for what the device answers. -/
def Response.sent (backend : Backend) (req : List UInt8) (reqLength : Nat) (response : Response) :
    Except Errno (List UInt8) :=
  (response.rsp backend req (reqSft backend req) (reqLength - backend.checksumLength)).map
    (sentReply backend req)

/-- A reply of the server is what the device does with the request. -/
theorem reply_serves {backend : Backend} {req : List UInt8} {mapping : Mapping}
    (inside : ¬ WritesBelow backend req mapping) (cleanBits : Clean mapping.bits)
    (cleanInputs : Clean mapping.inputBits) (reqLength : Nat) :
    ∃ reply, modbusReply backend req reqLength mapping = some reply ∧
      reply.mapping.device = (mapping.device.serve (requestAt backend req)).1 ∧
      reply.rsp = (mapping.device.serve (requestAt backend req)).2.sent backend req reqLength ∧
      reply.flush = (mapping.device.serve (requestAt backend req)).2.flush ∧
      Kept mapping reply.mapping := by
  have defined : modbusReply backend req reqLength mapping ≠ none :=
    fun undefined => inside (reply_undefined_iff.mp undefined)
  obtain ⟨reply, replied⟩ := Option.ne_none_iff_exists'.mp defined
  have sent := replied
  rw [modbusReply, Option.map_eq_some_iff] at sent
  obtain ⟨built, analysed, rfl⟩ := sent
  obtain ⟨device, rsp, flush, kept⟩ := reply_rsp_serves inside cleanBits cleanInputs analysed
  refine ⟨_, replied, device, ?_, flush, kept⟩
  dsimp only
  rw [rsp]
  rfl

def serverRun (backend : Backend) : Mapping → List (List UInt8 × Nat) →
    Option (Mapping × List (Except Errno (List UInt8)))
  | mapping, [] => some (mapping, [])
  | mapping, (req, reqLength) :: rest =>
      (modbusReply backend req reqLength mapping).bind fun reply =>
        (serverRun backend reply.mapping rest).map fun (left, sent) => (left, reply.rsp :: sent)

def deviceRun (backend : Backend) : Device → List (List UInt8 × Nat) →
    Device × List (Except Errno (List UInt8))
  | device, [] => (device, [])
  | device, (req, reqLength) :: rest =>
      let served := device.serve (requestAt backend req)
      let later := deviceRun backend served.1 rest
      (later.1, served.2.sent backend req reqLength :: later.2)

theorem writes_below_kept {backend : Backend} {req : List UInt8} {before after : Mapping}
    (kept : Kept before after) :
    WritesBelow backend req after ↔ WritesBelow backend req before := by
  have start : after.registers.start = before.registers.start := congrArg Prod.fst kept.registers
  have length : after.registers.tab.length = before.registers.tab.length :=
    congrArg Prod.snd kept.registers
  constructor
  · rintro ⟨function, nbWrite, nb, nbWriteBytes, readInside, writeEnd, writeBelow⟩
    rw [start, length] at readInside writeEnd
    rw [start] at writeBelow
    exact ⟨function, nbWrite, nb, nbWriteBytes, readInside, writeEnd, writeBelow⟩
  · rintro ⟨function, nbWrite, nb, nbWriteBytes, readInside, writeEnd, writeBelow⟩
    rw [← start, ← length] at readInside writeEnd
    rw [← start] at writeBelow
    exact ⟨function, nbWrite, nb, nbWriteBytes, readInside, writeEnd, writeBelow⟩

/-- A run of requests touches a place outside of the tables exactly when one of them is a write
and read that writes below them. -/
theorem server_run_undefined_iff {backend : Backend} {reqs : List (List UInt8 × Nat)}
    {mapping : Mapping} (cleanBits : Clean mapping.bits) (cleanInputs : Clean mapping.inputBits) :
    serverRun backend mapping reqs = none ↔ ∃ req ∈ reqs, WritesBelow backend req.1 mapping := by
  induction reqs generalizing mapping with
  | nil => exact iff_of_false (Option.some_ne_none _) (by rintro ⟨_, member, _⟩; cases member)
  | cons first rest ih =>
      obtain ⟨req, reqLength⟩ := first
      rw [List.exists_mem_cons_iff, serverRun]
      by_cases below : WritesBelow backend req mapping
      · rw [reply_undefined_iff.mpr below]
        exact iff_of_true rfl (.inl below)
      · obtain ⟨reply, replied, -, -, -, kept⟩ :=
          reply_serves below cleanBits cleanInputs reqLength
        rw [replied, Option.bind_some, Option.map_eq_none_iff,
          ih (kept.clean cleanBits) (kept.inputBits ▸ cleanInputs)]
        constructor
        · rintro ⟨next, member, wrong⟩
          exact .inr ⟨next, member, (writes_below_kept kept).mp wrong⟩
        · rintro (wrong | ⟨next, member, wrong⟩)
          · exact absurd wrong below
          · exact ⟨next, member, (writes_below_kept kept).mpr wrong⟩

/-- Over any run of requests, from any clients, the server does what the device does. -/
theorem server_run_refines {backend : Backend} {reqs : List (List UInt8 × Nat)}
    {mapping : Mapping} (inside : ∀ req ∈ reqs, ¬ WritesBelow backend req.1 mapping)
    (cleanBits : Clean mapping.bits) (cleanInputs : Clean mapping.inputBits) :
    ∃ left sent, serverRun backend mapping reqs = some (left, sent) ∧
      deviceRun backend mapping.device reqs = (left.device, sent) ∧ Kept mapping left := by
  induction reqs generalizing mapping with
  | nil => exact ⟨mapping, [], rfl, rfl, kept_refl mapping⟩
  | cons first rest ih =>
      obtain ⟨req, reqLength⟩ := first
      obtain ⟨reply, replied, device, rsp, -, kept⟩ :=
        reply_serves (inside (req, reqLength) (List.mem_cons_self ..)) cleanBits cleanInputs reqLength
      have later : ∀ next ∈ rest, ¬ WritesBelow backend next.1 reply.mapping :=
        fun next member below =>
          inside next (List.mem_cons_of_mem _ member) ((writes_below_kept kept).mp below)
      obtain ⟨left, sent, ran, same, whole⟩ :=
        ih later (kept.clean cleanBits) (kept.inputBits ▸ cleanInputs)
      refine ⟨left, reply.rsp :: sent, ?_, ?_, kept_trans kept whole⟩
      · rw [serverRun, replied, Option.bind_some, ran]
        rfl
      · rw [deviceRun, ← device, same, ← rsp]

theorem new_mapping_clean (startBits nbBits startInputBits nbInputBits startRegisters nbRegisters
    startInputRegisters nbInputRegisters : Nat) :
    Clean (modbusMappingNewStartAddress startBits nbBits startInputBits nbInputBits startRegisters
        nbRegisters startInputRegisters nbInputRegisters).bits ∧
      Clean (modbusMappingNewStartAddress startBits nbBits startInputBits nbInputBits
        startRegisters nbRegisters startInputRegisters nbInputRegisters).inputBits :=
  ⟨fun _ member => .inl (List.eq_of_mem_replicate member),
    fun _ member => .inl (List.eq_of_mem_replicate member)⟩

theorem write_below_run :
    serverRun rtuBackend (modbusMappingNewStartAddress 0 4 0 4 10 4 0 4)
        [([5, 23, 0, 10, 0, 1, 0, 9, 0, 1, 2, 0, 7, 0, 0], 15)] = none ↔
      ∃ req ∈ [(([5, 23, 0, 10, 0, 1, 0, 9, 0, 1, 2, 0, 7, 0, 0] : List UInt8), 15)],
        WritesBelow rtuBackend req.1 (modbusMappingNewStartAddress 0 4 0 4 10 4 0 4) :=
  server_run_undefined_iff (new_mapping_clean ..).1 (new_mapping_clean ..).2

theorem write_and_read_run :
    ∃ left sent, serverRun rtuBackend (modbusMappingNewStartAddress 0 4 0 4 10 4 0 4)
        [([5, 6, 0, 11, 0, 7], 8), ([5, 3, 0, 10, 0, 4], 8)] = some (left, sent) ∧
      deviceRun rtuBackend (modbusMappingNewStartAddress 0 4 0 4 10 4 0 4).device
        [([5, 6, 0, 11, 0, 7], 8), ([5, 3, 0, 10, 0, 4], 8)] = (left.device, sent) ∧
      Kept (modbusMappingNewStartAddress 0 4 0 4 10 4 0 4) left := by
  refine server_run_refines ?_ (new_mapping_clean ..).1 (new_mapping_clean ..).2
  intro req member below
  have code := below.function
  rcases List.mem_cons.mp member with rfl | member
  · cases code
  · rw [List.mem_singleton] at member
    subst member
    cases code

end DevHub.Modbus
