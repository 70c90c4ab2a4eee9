import Mathlib.Data.List.TakeWhile
import ZBlueNet.Lib.Bytes
import ZBlueNet.Lib.Objects

/-!
`SocketAddress`: an address as text and port and as a native address, each translated from the other
when it is asked for.
-/

namespace ZBlueNet

open Bytes

/-- `AF_INET` and `AF_INET6`. -/
inductive Family
  | inet
  | inet6
deriving DecidableEq, Repr

inductive Protocol
  | unknown
  | ipV4
  | ipV6
deriving DecidableEq, Repr

abbrev Block (size : Nat) := { bytes : List UInt8 // bytes.length = size }

namespace Block

variable {size : Nat}

def zero (size : Nat) : Block size := ⟨List.replicate size 0, List.length_replicate⟩

def put (block : Block size) (offset : Nat) (bytes : List UInt8) (inside : offset ≤ size) :
    Block size :=
  ⟨overwrite block.val offset bytes, by
    rw [overwrite_length _ _ _ (by rw [block.property]; exact inside), block.property]⟩

end Block

namespace Family

def code : Family → Nat
  | .inet => 2
  | .inet6 => 10

def protocol : Family → Protocol
  | .inet => .ipV4
  | .inet6 => .ipV6

def size : Family → Nat
  | .inet => 16
  | .inet6 => 28

def addressOffset : Family → Nat
  | .inet => 4
  | .inet6 => 8

def addressSize : Family → Nat
  | .inet => 4
  | .inet6 => 16

/-- The size of the `ip` array that the text is printed into. -/
def textSize : Family → Nat
  | .inet => 32
  | .inet6 => 128

end Family

abbrev Address (family : Family) := Block family.addressSize

/-- The characters before the terminating zero. -/
abbrev CString := { text : List UInt8 // 0 ∉ text }

/-- `std::string::c_str`, as a function reads it that takes a C string. -/
def cStr (text : List UInt8) : CString :=
  ⟨text.takeWhile (· ≠ 0), by
    intro zero
    have nonzero := List.mem_takeWhile_imp zero
    simp at nonzero⟩

/-- `inet_ntop` with the size of the destination, and `inet_pton` with what it returns and what it
leaves in a destination that was zero. -/
structure Inet where
  ntop : (family : Family) → Address family → Nat → Option CString
  pton : (family : Family) → CString → Int × Address family

/-! The fields of `sockaddr_in` and `sockaddr_in6` in memory. -/

def familyCode (bytes : List UInt8) : Nat := assemble (bytes.take 2).reverse

def portOf (bytes : List UInt8) : UInt16 := UInt16.ofNat (assemble ((bytes.drop 2).take 2))

def familyBytes (family : Family) : List UInt8 := (integerBytes 2 family.code).reverse

def portBytes (port : UInt16) : List UInt8 := integerBytes 2 port.toNat

def addressBytes (family : Family) (bytes : List UInt8) : List UInt8 :=
  (bytes.drop family.addressOffset).take family.addressSize

def familyOf (bytes : List UInt8) : Option Family :=
  if familyCode bytes = Family.inet.code then some .inet
  else if familyCode bytes = Family.inet6.code then some .inet6
  else none

/-- What `native_addr` points to: as much memory as its family says. -/
structure Sockaddr where
  bytes : List UInt8
  enough : ∀ family, familyOf bytes = some family → family.size ≤ bytes.length

structure SocketAddress where
  hasAddr : Bool
  ip : List UInt8
  port : UInt16
  hasNativeAddr : Bool
  protocol : Protocol
  nativeAddr : Block 28
  nativeAddrSize : Nat

namespace SocketAddress

/-- `native_addr_` starts as what is in its memory. -/
def create (memory : Block 28) : SocketAddress :=
  { hasAddr := false
    ip := []
    port := 0
    hasNativeAddr := false
    protocol := .unknown
    nativeAddr := memory
    nativeAddrSize := 0 }

def createText (ip : List UInt8) (port : UInt16) (memory : Block 28) : SocketAddress :=
  { hasAddr := true
    ip := ip
    port := port
    hasNativeAddr := false
    protocol := .unknown
    nativeAddr := memory
    nativeAddrSize := 0 }

def setAddress (s : SocketAddress) (ip : List UInt8) (port : UInt16) : SocketAddress :=
  { s with ip := ip, port := port, hasAddr := true, hasNativeAddr := false }

def setNativeAddress (s : SocketAddress) (native : Sockaddr) : Bool × SocketAddress :=
  match familyOf native.bytes with
  | some family =>
      (true, { s with
        protocol := family.protocol
        nativeAddrSize := family.size
        nativeAddr := s.nativeAddr.put 0 (native.bytes.take family.size) (Nat.zero_le 28)
        hasAddr := false
        hasNativeAddr := true })
  | none => (false, s)

def address (family : Family) (memory : Block 28) : Address family :=
  ⟨addressBytes family memory.val, by
    cases family <;> simp [addressBytes, Family.addressOffset, Family.addressSize, memory.property]⟩

variable (inet : Inet)

def printAddress (family : Family) (s : SocketAddress) : SocketAddress :=
  match inet.ntop family (address family s.nativeAddr) family.textSize with
  | none => s
  | some text => { s with ip := text.val, port := portOf s.nativeAddr.val, hasAddr := true }

def translateNativeAddressToAddress (s : SocketAddress) : SocketAddress :=
  let cleared := { s with ip := [], port := 0 }
  match s.protocol with
  | .ipV4 => printAddress inet .inet cleared
  | .ipV6 => printAddress inet .inet6 cleared
  | .unknown => cleared

theorem addressOffset_inside (family : Family) : family.addressOffset ≤ 28 := by
  cases family <;> decide

/-- What `inet_pton` leaves in the union stays there when it fails. -/
def readAddress (family : Family) (s : SocketAddress) : SocketAddress :=
  let read := inet.pton family (cStr s.ip)
  let memory := s.nativeAddr.put family.addressOffset read.2.val (addressOffset_inside family)
  if read.1 ≠ 1 then { s with nativeAddr := memory }
  else { s with
    nativeAddr := (memory.put 0 (familyBytes family) (by decide)).put 2 (portBytes s.port) (by decide)
    protocol := family.protocol
    nativeAddrSize := family.size
    hasNativeAddr := true }

def dot : UInt8 := 46

def colon : UInt8 := 58

def translateAddressToNativeAddress (s : SocketAddress) : SocketAddress :=
  let cleared := { s with nativeAddr := .zero 28, protocol := .unknown, nativeAddrSize := 0 }
  if dot ∈ s.ip then readAddress inet .inet cleared
  else if colon ∈ s.ip then readAddress inet .inet6 cleared
  else cleared

def withText (s : SocketAddress) : SocketAddress :=
  if !s.hasAddr && s.hasNativeAddr then s.translateNativeAddressToAddress inet else s

def withNative (s : SocketAddress) : SocketAddress :=
  if !s.hasNativeAddr && s.hasAddr then s.translateAddressToNativeAddress inet else s

def getIp (s : SocketAddress) : List UInt8 × SocketAddress :=
  ((s.withText inet).ip, s.withText inet)

def getPort (s : SocketAddress) : UInt16 × SocketAddress :=
  ((s.withText inet).port, s.withText inet)

def getProtocol (s : SocketAddress) : Protocol × SocketAddress :=
  ((s.withNative inet).protocol, s.withNative inet)

def getNativeAddress (s : SocketAddress) : Option (List UInt8) × SocketAddress :=
  let translated := s.withNative inet
  match translated.protocol with
  | .ipV4 => (some (translated.nativeAddr.val.take Family.inet.size), translated)
  | .ipV6 => (some (translated.nativeAddr.val.take Family.inet6.size), translated)
  | .unknown => (none, translated)

def getNativeAddressSize (s : SocketAddress) : Nat × SocketAddress :=
  ((s.withNative inet).nativeAddrSize, s.withNative inet)

end SocketAddress

/-! An address that holds both forms, as they are translated from each other. -/

structure AddressValue where
  ip : List UInt8
  port : UInt16
  protocol : Protocol
  nativeAddress : Option (List UInt8)
  nativeAddressSize : Nat

namespace AddressValue

def unset : AddressValue :=
  { ip := [], port := 0, protocol := .unknown, nativeAddress := none, nativeAddressSize := 0 }

variable (inet : Inet)

def parse (family : Family) (ip : List UInt8) : Option (Address family) :=
  if (inet.pton family (cStr ip)).1 = 1 then some (inet.pton family (cStr ip)).2 else none

def sockaddrBytes (family : Family) (address : Address family) (port : UInt16) : List UInt8 :=
  familyBytes family ++ portBytes port ++ List.replicate (family.addressOffset - 4) 0 ++
    address.val ++ List.replicate (family.size - family.addressOffset - family.addressSize) 0

def ofParsed (family : Family) (ip : List UInt8) (port : UInt16) : AddressValue :=
  match parse inet family ip with
  | some address =>
      { ip := ip
        port := port
        protocol := family.protocol
        nativeAddress := some (sockaddrBytes family address port)
        nativeAddressSize := family.size }
  | none => { unset with ip := ip, port := port }

def ofText (ip : List UInt8) (port : UInt16) : AddressValue :=
  if SocketAddress.dot ∈ ip then ofParsed inet .inet ip port
  else if SocketAddress.colon ∈ ip then ofParsed inet .inet6 ip port
  else { unset with ip := ip, port := port }

def addressIn (family : Family) (native : Block family.size) : Address family :=
  ⟨addressBytes family native.val, by
    have size := native.property
    cases family <;>
      simp [addressBytes, Family.addressOffset, Family.addressSize, size, Family.size]⟩

def ofNative (family : Family) (native : Block family.size) : AddressValue :=
  let value : AddressValue :=
    { unset with
      protocol := family.protocol
      nativeAddress := some native.val
      nativeAddressSize := family.size }
  match inet.ntop family (addressIn family native) family.textSize with
  | some text => { value with ip := text.val, port := portOf native.val }
  | none => value

end AddressValue

def Sockaddr.structureOf (native : Sockaddr) {family : Family}
    (known : familyOf native.bytes = some family) : Block family.size :=
  ⟨native.bytes.take family.size, by
    rw [List.length_take, Nat.min_eq_left (native.enough family known)]⟩

def AddressValue.setNativeAddress (inet : Inet) (value : AddressValue) (native : Sockaddr) :
    Bool × AddressValue :=
  match known : familyOf native.bytes with
  | some family => (true, .ofNative inet family (native.structureOf known))
  | none => (false, value)

/-! Both are kinds of objects with the same methods. -/

inductive AddressInit
  | unset (memory : Block 28)
  | text (ip : List UInt8) (port : UInt16) (memory : Block 28)

inductive AddressMethod
  | setAddress (ip : List UInt8) (port : UInt16)
  | setNativeAddress (native : Sockaddr)
  | getIp
  | getPort
  | getProtocol
  | getNativeAddress
  | getNativeAddressSize

inductive AddressAnswer
  | done
  | accepted (result : Bool)
  | ip (ip : List UInt8)
  | port (port : UInt16)
  | protocol (protocol : Protocol)
  | nativeAddress (bytes : Option (List UInt8))
  | nativeAddressSize (size : Nat)
deriving DecidableEq, Repr

open Objects

variable (inet : Inet)

def SocketAddress.kind : Kind AddressInit AddressMethod AddressAnswer SocketAddress :=
  { create := fun
      | .unset memory => .create memory
      | .text ip port memory => .createText ip port memory
    call := fun s => fun
      | .setAddress ip port => (.done, s.setAddress ip port)
      | .setNativeAddress native => (s.setNativeAddress native).map .accepted id
      | .getIp => (s.getIp inet).map .ip id
      | .getPort => (s.getPort inet).map .port id
      | .getProtocol => (s.getProtocol inet).map .protocol id
      | .getNativeAddress => (s.getNativeAddress inet).map .nativeAddress id
      | .getNativeAddressSize => (s.getNativeAddressSize inet).map .nativeAddressSize id }

def AddressValue.kind : Kind AddressInit AddressMethod AddressAnswer AddressValue :=
  { create := fun
      | .unset _ => .unset
      | .text ip port _ => .ofText inet ip port
    call := fun value => fun
      | .setAddress ip port => (.done, .ofText inet ip port)
      | .setNativeAddress native => (value.setNativeAddress inet native).map .accepted id
      | .getIp => (.ip value.ip, value)
      | .getPort => (.port value.port, value)
      | .getProtocol => (.protocol value.protocol, value)
      | .getNativeAddress => (.nativeAddress value.nativeAddress, value)
      | .getNativeAddressSize => (.nativeAddressSize value.nativeAddressSize, value) }

namespace SocketAddress

variable {s : SocketAddress} {family : Family}

def value (s : SocketAddress) : AddressValue :=
  { ip := (s.getIp inet).1
    port := (s.getPort inet).1
    protocol := (s.getProtocol inet).1
    nativeAddress := (s.getNativeAddress inet).1
    nativeAddressSize := (s.getNativeAddressSize inet).1 }

/-! A translation depends on the other form alone, so a second one changes nothing. -/

def printed (protocol : Protocol) (memory : Block 28) : Option (List UInt8 × UInt16) :=
  let print (family : Family) :=
    (inet.ntop family (address family memory) family.textSize).map fun text =>
      (text.val, portOf memory.val)
  match protocol with
  | .ipV4 => print .inet
  | .ipV6 => print .inet6
  | .unknown => none

def setPrinted (s : SocketAddress) : Option (List UInt8 × UInt16) → SocketAddress
  | some (ip, port) => { s with ip := ip, port := port, hasAddr := true }
  | none => { s with ip := [], port := 0 }

theorem translateNative_eq (s : SocketAddress) :
    s.translateNativeAddressToAddress inet = s.setPrinted (printed inet s.protocol s.nativeAddr) := by
  have print (family : Family) : printAddress inet family { s with ip := [], port := 0 } =
      s.setPrinted ((inet.ntop family (address family s.nativeAddr) family.textSize).map
        fun text => (text.val, portOf s.nativeAddr.val)) := by
    rw [printAddress]
    split
    next failed => simp only [failed, Option.map_none, setPrinted]
    next text made => simp only [made, Option.map_some, setPrinted]
  rw [translateNativeAddressToAddress]
  split
  next protocol => rw [print, protocol, printed]
  next protocol => rw [print, protocol, printed]
  next protocol => rw [protocol, printed, setPrinted, protocol]

/-- The memory that a text of the family leaves, and the family if there is an address in it. -/
def readAs (family : Family) (ip : List UInt8) (port : UInt16) : Option Family × Block 28 :=
  let read := inet.pton family (cStr ip)
  let memory := (Block.zero 28).put family.addressOffset read.2.val (addressOffset_inside family)
  if read.1 ≠ 1 then (none, memory)
  else (some family,
    (memory.put 0 (familyBytes family) (by decide)).put 2 (portBytes port) (by decide))

def read (ip : List UInt8) (port : UInt16) : Option Family × Block 28 :=
  if dot ∈ ip then readAs inet .inet ip port
  else if colon ∈ ip then readAs inet .inet6 ip port
  else (none, .zero 28)

def setRead (s : SocketAddress) : Option Family × Block 28 → SocketAddress
  | (some family, memory) =>
      { s with
        nativeAddr := memory
        protocol := family.protocol
        nativeAddrSize := family.size
        hasNativeAddr := true }
  | (none, memory) =>
      { s with nativeAddr := memory, protocol := .unknown, nativeAddrSize := 0 }

theorem translateAddress_eq (s : SocketAddress) :
    s.translateAddressToNativeAddress inet = s.setRead (read inet s.ip s.port) := by
  simp only [translateAddressToNativeAddress, readAddress, read, readAs]
  split_ifs <;> rfl

theorem setPrinted_again (s : SocketAddress) (text : Option (List UInt8 × UInt16)) :
    (s.setPrinted text).setPrinted text = s.setPrinted text := by
  cases text <;> rfl

theorem setRead_again (s : SocketAddress) (native : Option Family × Block 28) :
    (s.setRead native).setRead native = s.setRead native := by
  obtain ⟨_ | _, _⟩ := native <;> rfl

theorem setPrinted_native (s : SocketAddress) (text : Option (List UInt8 × UInt16)) :
    (s.setPrinted text).hasNativeAddr = s.hasNativeAddr ∧
      (s.setPrinted text).protocol = s.protocol ∧
      (s.setPrinted text).nativeAddr = s.nativeAddr ∧
      (s.setPrinted text).nativeAddrSize = s.nativeAddrSize := by
  cases text <;> exact ⟨rfl, rfl, rfl, rfl⟩

theorem setRead_text (s : SocketAddress) (native : Option Family × Block 28) :
    (s.setRead native).hasAddr = s.hasAddr ∧ (s.setRead native).ip = s.ip ∧
      (s.setRead native).port = s.port := by
  obtain ⟨_ | _, _⟩ := native <;> exact ⟨rfl, rfl, rfl⟩

theorem withText_of_hasAddr (has : s.hasAddr = true) : s.withText inet = s := by
  simp [withText, has]

theorem withNative_of_hasNativeAddr (has : s.hasNativeAddr = true) : s.withNative inet = s := by
  simp [withNative, has]

theorem withText_translates (text : s.hasAddr = false) (native : s.hasNativeAddr = true) :
    s.withText inet = s.setPrinted (printed inet s.protocol s.nativeAddr) := by
  simp [withText, text, native, translateNative_eq]

theorem withNative_translates (native : s.hasNativeAddr = false) (text : s.hasAddr = true) :
    s.withNative inet = s.setRead (read inet s.ip s.port) := by
  simp [withNative, native, text, translateAddress_eq]

def view (protocol : Protocol) (memory : Block 28) : Option (List UInt8) :=
  match protocol with
  | .ipV4 => some (memory.val.take Family.inet.size)
  | .ipV6 => some (memory.val.take Family.inet6.size)
  | .unknown => none

theorem getNativeAddress_eq (s : SocketAddress) :
    s.getNativeAddress inet =
      (view (s.withNative inet).protocol (s.withNative inet).nativeAddr, s.withNative inet) := by
  rw [getNativeAddress]
  split
  all_goals
    rename_i protocol
    rw [protocol, view]

theorem value_eq (s : SocketAddress) :
    s.value inet =
      { ip := (s.withText inet).ip
        port := (s.withText inet).port
        protocol := (s.withNative inet).protocol
        nativeAddress := view (s.withNative inet).protocol (s.withNative inet).nativeAddr
        nativeAddressSize := (s.withNative inet).nativeAddrSize } := by
  rw [value, getNativeAddress_eq]
  rfl

theorem value_withText (s : SocketAddress) : (s.withText inet).value inet = s.value inet := by
  by_cases translates : s.hasAddr = false ∧ s.hasNativeAddr = true
  · obtain ⟨text, native⟩ := translates
    have translated := withText_translates inet text native
    obtain ⟨keptHas, protocol, memory, size⟩ :=
      setPrinted_native s (printed inet s.protocol s.nativeAddr)
    rw [← translated] at keptHas protocol memory size
    have again : (s.withText inet).withText inet = s.withText inet := by
      by_cases has : (s.withText inet).hasAddr = true
      · exact withText_of_hasAddr inet has
      · rw [Bool.not_eq_true] at has
        rw [withText_translates inet has (keptHas.trans native), protocol, memory, translated,
          setPrinted_again]
    rw [value_eq, value_eq, again, withNative_of_hasNativeAddr inet native,
      withNative_of_hasNativeAddr inet (keptHas.trans native), protocol, memory, size]
  · have same : s.withText inet = s := by
      simp only [withText, Bool.and_eq_true, Bool.not_eq_true', translates, if_false]
    rw [same]

theorem value_withNative (s : SocketAddress) : (s.withNative inet).value inet = s.value inet := by
  by_cases translates : s.hasNativeAddr = false ∧ s.hasAddr = true
  · obtain ⟨native, text⟩ := translates
    have translated := withNative_translates inet native text
    obtain ⟨keptHas, ip, port⟩ := setRead_text s (read inet s.ip s.port)
    rw [← translated] at keptHas ip port
    have again : (s.withNative inet).withNative inet = s.withNative inet := by
      by_cases has : (s.withNative inet).hasNativeAddr = true
      · exact withNative_of_hasNativeAddr inet has
      · rw [Bool.not_eq_true] at has
        rw [withNative_translates inet has (keptHas.trans text), ip, port, translated,
          setRead_again]
    rw [value_eq, value_eq, again, withText_of_hasAddr inet text,
      withText_of_hasAddr inet (keptHas.trans text), ip, port]
  · have same : s.withNative inet = s := by
      simp only [withNative, Bool.and_eq_true, Bool.not_eq_true', translates, if_false]
    rw [same]

theorem stored_eq (family : Family) (address : Address family) (port : UInt16) :
    (overwrite (overwrite (overwrite (List.replicate 28 0) family.addressOffset address.val) 0
      (familyBytes family)) 2 (portBytes port)).take family.size =
        AddressValue.sockaddrBytes family address port := by
  obtain ⟨address, size⟩ := address
  have code : (familyBytes family).length = 2 := by simp [familyBytes]
  have number : (portBytes port).length = 2 := by simp [portBytes]
  have front : (familyBytes family ++ portBytes port).length = 4 := by
    rw [List.length_append, code, number]
  obtain ⟨behind, within, inside⟩ : 4 ≤ family.addressOffset ∧
      family.addressOffset + address.length ≤ family.size ∧ family.size ≤ 28 := by
    rw [size]
    cases family <;> decide
  have memory : overwrite (List.replicate 28 0) family.addressOffset address =
      List.replicate family.addressOffset 0 ++ address ++
        List.replicate (28 - (family.addressOffset + address.length)) 0 := by
    rw [overwrite_eq _ _ _ (by rw [List.length_replicate]; omega), List.take_replicate,
      List.drop_replicate, Nat.min_eq_left (by omega)]
  have beside := overwrite_overwrite (overwrite (List.replicate 28 0) family.addressOffset address)
    0 (familyBytes family) (portBytes port) (by
      rw [overwrite_length _ _ _ (by rw [List.length_replicate]; omega), List.length_replicate,
        code, number]
      decide)
  rw [code, Nat.zero_add] at beside
  have whole : overwrite (overwrite (List.replicate 28 0) family.addressOffset address) 0
      (familyBytes family ++ portBytes port) =
        (familyBytes family ++ portBytes port ++ List.replicate (family.addressOffset - 4) 0 ++
          address) ++ List.replicate (28 - (family.addressOffset + address.length)) 0 := by
    rw [memory, overwrite_eq _ _ _ (by rw [front]; simp; omega), front, List.take_zero,
      List.nil_append, Nat.zero_add, List.append_assoc (List.replicate family.addressOffset 0),
      List.drop_append_of_le_length (by rwa [List.length_replicate]), List.drop_replicate,
      ← List.append_assoc, ← List.append_assoc]
  have left : (familyBytes family ++ portBytes port ++ List.replicate (family.addressOffset - 4) 0 ++
      address).length = family.addressOffset + address.length := by
    rw [List.length_append, List.length_append, front, List.length_replicate]
    omega
  rw [beside, whole, List.take_append, left, List.take_of_length_le (by rw [left]; exact within),
    List.take_replicate, Nat.min_eq_left (by omega), Nat.sub_add_eq, size, AddressValue.sockaddrBytes]

theorem readAs_view {family : Family} {ip : List UInt8} {address : Address family} (port : UInt16)
    (parsed : AddressValue.parse inet family ip = some address) :
    ∃ memory, readAs inet family ip port = (some family, memory) ∧
      view family.protocol memory = some (AddressValue.sockaddrBytes family address port) := by
  simp only [AddressValue.parse, Option.ite_none_right_eq_some, Option.some.injEq] at parsed
  obtain ⟨result, rfl⟩ := parsed
  refine ⟨_, by rw [readAs, if_neg (by simpa using result)], ?_⟩
  rw [← stored_eq]
  cases family <;> rfl

theorem value_of_text (text : s.hasAddr = true) (native : s.hasNativeAddr = false) :
    s.value inet = .ofText inet s.ip s.port := by
  rw [value_eq, withText_of_hasAddr inet text, withNative_translates inet native text]
  have parsed (family : Family) :
      let t := s.setRead (readAs inet family s.ip s.port)
      AddressValue.mk s.ip s.port t.protocol (view t.protocol t.nativeAddr) t.nativeAddrSize =
        .ofParsed inet family s.ip s.port := by
    rw [AddressValue.ofParsed]
    cases found : AddressValue.parse inet family s.ip with
    | none =>
        have failed : (inet.pton family (cStr s.ip)).1 ≠ 1 := by
          intro result
          simp [AddressValue.parse, result] at found
        have left : readAs inet family s.ip s.port = (none, (Block.zero 28).put
            family.addressOffset (inet.pton family (cStr s.ip)).2.val
            (addressOffset_inside family)) := by
          rw [readAs, if_pos failed]
        rw [left]
        rfl
    | some address =>
        obtain ⟨memory, readAs, shown⟩ := readAs_view inet s.port found
        simp only [readAs, setRead, shown]
  rw [read, AddressValue.ofText]
  split_ifs
  · exact parsed .inet
  · exact parsed .inet6
  · rfl

theorem portOf_take (family : Family) (bytes : List UInt8) :
    portOf (bytes.take family.size) = portOf bytes := by
  rw [portOf, portOf, List.drop_take, List.take_take]
  cases family <;> rfl

theorem addressBytes_take (family : Family) (bytes : List UInt8) :
    addressBytes family (bytes.take family.size) = addressBytes family bytes := by
  rw [addressBytes, addressBytes, List.drop_take, List.take_take]
  cases family <;> rfl

theorem value_of_native (text : s.hasAddr = false) (has : s.hasNativeAddr = true)
    (native : Block family.size) (protocol : s.protocol = family.protocol)
    (size : s.nativeAddrSize = family.size)
    (stored : s.nativeAddr.val.take family.size = native.val) :
    s.value inet = .ofNative inet family native := by
  have same : address family s.nativeAddr = AddressValue.addressIn family native := by
    have equal : addressBytes family s.nativeAddr.val = addressBytes family native.val := by
      rw [← stored, addressBytes_take]
    exact Subtype.ext equal
  have text' : printed inet s.protocol s.nativeAddr =
      (inet.ntop family (AddressValue.addressIn family native) family.textSize).map fun text =>
        (text.val, portOf native.val) := by
    rw [protocol, ← same, ← stored, portOf_take]
    cases family <;> rfl
  have shown : view s.protocol s.nativeAddr = some native.val := by
    rw [protocol, ← stored]
    cases family <;> rfl
  rw [value_eq, withText_translates inet text has, withNative_of_hasNativeAddr inet has, text',
    shown, protocol, size, AddressValue.ofNative]
  cases inet.ntop family (AddressValue.addressIn family native) family.textSize <;> rfl

theorem value_setNativeAddress (s : SocketAddress) (native : Sockaddr) :
    ((s.value inet).setNativeAddress inet native) =
      (s.setNativeAddress native).map id (value inet) := by
  rw [AddressValue.setNativeAddress, setNativeAddress]
  split
  next family known =>
      simp only [known, Prod.map, id]
      congr 1
      apply (value_of_native inet rfl rfl (native.structureOf known) rfl rfl _).symm
      have enough := native.enough family known
      have length : (native.bytes.take family.size).length = family.size := by
        rw [List.length_take, Nat.min_eq_left enough]
      have stored := overwrite_take s.nativeAddr.val 0 (native.bytes.take family.size) (by
        rw [length, s.nativeAddr.property]
        cases family <;> decide)
      rw [length, Nat.zero_add] at stored
      exact stored
  next known => simp only [known, Prod.map, id]

theorem kind_mirrors :
    Mirrors (SocketAddress.kind inet) (AddressValue.kind inet) (value inet) := by
  constructor
  case create =>
    intro init
    cases init with
    | unset memory => rfl
    | text ip port memory => exact value_of_text inet rfl rfl
  case call =>
    intro s method
    cases method with
    | setAddress ip port =>
        have set := value_of_text inet (s := s.setAddress ip port) rfl rfl
        exact congrArg (AddressAnswer.done, ·) set.symm
    | setNativeAddress native =>
        simp only [AddressValue.kind, SocketAddress.kind, value_setNativeAddress, Prod.map, id]
    | getIp => exact congrArg (_, ·) (value_withText inet s).symm
    | getPort => exact congrArg (_, ·) (value_withText inet s).symm
    | getProtocol => exact congrArg (_, ·) (value_withNative inet s).symm
    | getNativeAddress =>
        have translated : (s.getNativeAddress inet).2 = s.withNative inet := by
          rw [getNativeAddress_eq]
        simp only [AddressValue.kind, SocketAddress.kind, Prod.map, id]
        rw [translated, value_withNative]
        rfl
    | getNativeAddressSize => exact congrArg (_, ·) (value_withNative inet s).symm

/-- No run with any number of addresses can tell that they translate on demand. -/
theorem cache_invisible {Name : Type} [DecidableEq Name]
    (events : List (Event Name AddressInit AddressMethod)) :
    answers (SocketAddress.kind inet) (fun _ => none) events =
      answers (AddressValue.kind inet) (fun _ => none) events :=
  ((kind_mirrors inet).answers (fun _ => none) events).symm

end SocketAddress

end ZBlueNet
