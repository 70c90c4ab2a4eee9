import ZBlueNet.SocketAddress

/-!
A native address that goes through text: which addresses come back, when the text is read again.
-/

namespace ZBlueNet

open Bytes

/-- An IPv4 address in IPv6. -/
def Mapped (address : Address .inet6) : Prop :=
  address.val.take 12 = List.replicate 10 0 ++ [255, 255]

/-- What the manual of `inet_ntop` and `inet_pton` says of them. -/
structure Inet.Documented (inet : Inet) : Prop where
  prints : ∀ family address, ∃ text, inet.ntop family address family.textSize = some text
  inverse : ∀ family address text, inet.ntop family address family.textSize = some text →
    inet.pton family text = (1, address)
  dots : ∀ address text, inet.ntop .inet address Family.inet.textSize = some text →
    SocketAddress.dot ∈ text.val ∧ SocketAddress.colon ∉ text.val
  colons : ∀ address text, inet.ntop .inet6 address Family.inet6.textSize = some text →
    SocketAddress.colon ∈ text.val
  mapped : ∀ address text, Mapped address →
    inet.ntop .inet6 address Family.inet6.textSize = some text → SocketAddress.dot ∈ text.val

namespace SocketAddress

variable (inet : Inet) {family : Family} {native : Sockaddr}

def throughText (s : SocketAddress) (memory : Block 28) : SocketAddress :=
  let ip := s.getIp inet
  createText ip.1 (ip.2.getPort inet).1 memory

/-- The native address of the second one, made of the text of the first, is the one that the first
was given. -/
def KeepsAddress (s : SocketAddress) (native : Sockaddr) (family : Family) (memory : Block 28) :
    Prop :=
  let second := (s.setNativeAddress native).2.throughText inet memory
  (second.getProtocol inet).1 = family.protocol ∧
    ∃ bytes, (second.getNativeAddress inet).1 = some bytes ∧ familyOf bytes = some family ∧
      addressBytes family bytes = addressBytes family native.bytes ∧
      portOf bytes = portOf native.bytes

def PrintsNoDot (family : Family) (address : Address family) : Prop :=
  ∀ text, inet.ntop family address family.textSize = some text → dot ∉ text.val

theorem cStr_val (text : CString) : cStr text.val = text := by
  apply Subtype.ext
  apply List.takeWhile_eq_self_iff.mpr
  intro character member
  have nonzero : character ≠ 0 := by
    rintro rfl
    exact text.property member
  simpa using nonzero

theorem value_throughText (s : SocketAddress) (memory : Block 28) :
    (s.throughText inet memory).value inet =
      .ofText inet (s.value inet).ip (s.value inet).port := by
  have port : ((s.getIp inet).2.getPort inet).1 = (s.value inet).port :=
    congrArg AddressValue.port (value_withText inet s)
  rw [throughText, value_of_text inet rfl rfl]
  exact congrArg (AddressValue.ofText inet (s.value inet).ip) port

theorem value_setNative (s : SocketAddress) (known : familyOf native.bytes = some family) :
    ((s.setNativeAddress native).2).value inet =
      .ofNative inet family (native.structureOf known) := by
  have set := congrArg Prod.snd (value_setNativeAddress inet s native)
  rw [AddressValue.setNativeAddress] at set
  split at set
  next other found =>
      have same : other = family := Option.some.inj (found.symm.trans known)
      subst same
      exact set.symm
  next none =>
      rw [known] at none
      cases none

end SocketAddress

namespace AddressValue

variable (inet : Inet) {family : Family}

theorem familyBytes_length (family : Family) : (familyBytes family).length = 2 := by
  simp [familyBytes]

theorem portBytes_length (port : UInt16) : (portBytes port).length = 2 := by
  simp [portBytes]

theorem familyOf_sockaddrBytes (address : Address family) (port : UInt16) :
    familyOf (sockaddrBytes family address port) = some family := by
  have code : familyCode (sockaddrBytes family address port) = family.code := by
    rw [familyCode, sockaddrBytes, List.append_assoc, List.append_assoc, List.append_assoc,
      List.take_left' (familyBytes_length family), familyBytes, List.reverse_reverse,
      assemble_integerBytes]
    cases family <;> rfl
  rw [familyOf, code]
  cases family <;> rfl

theorem portOf_sockaddrBytes (address : Address family) (port : UInt16) :
    portOf (sockaddrBytes family address port) = port := by
  have small : port.toNat < 256 ^ 2 := port.toNat_lt
  rw [portOf, sockaddrBytes, List.append_assoc, List.append_assoc, List.append_assoc,
    List.drop_left' (familyBytes_length family), List.take_left' (portBytes_length port),
    portBytes, assemble_integerBytes, Nat.mod_eq_of_lt small, UInt16.ofNat_toNat]

theorem addressBytes_sockaddrBytes (address : Address family) (port : UInt16) :
    addressBytes family (sockaddrBytes family address port) = address.val := by
  have front : (familyBytes family ++ portBytes port ++
      List.replicate (family.addressOffset - 4) 0).length = family.addressOffset := by
    simp only [List.length_append, familyBytes_length, portBytes_length, List.length_replicate]
    cases family <;> rfl
  rw [addressBytes, sockaddrBytes, List.append_assoc _ address.val, List.drop_left' front,
    List.take_left' address.property]

theorem ofParsed_protocol (family : Family) (ip : List UInt8) (port : UInt16) :
    (ofParsed inet family ip port).protocol = family.protocol ∨
      (ofParsed inet family ip port).protocol = .unknown := by
  rw [ofParsed]
  split
  · exact .inl rfl
  · exact .inr rfl

theorem ofText_printed (documented : inet.Documented) {address : Address family} {text : CString}
    (printed : inet.ntop family address family.textSize = some text) (port : UInt16)
    (fits : family = .inet ∨ SocketAddress.dot ∉ text.val) :
    ofText inet text.val port =
      { ip := text.val
        port := port
        protocol := family.protocol
        nativeAddress := some (sockaddrBytes family address port)
        nativeAddressSize := family.size } := by
  have read : parse inet family text.val = some address := by
    rw [parse, SocketAddress.cStr_val, documented.inverse family address text printed, if_pos rfl]
  have parsed : ofText inet text.val port = ofParsed inet family text.val port := by
    rw [ofText]
    cases family with
    | inet => rw [if_pos (documented.dots address text printed).1]
    | inet6 =>
        have plain : SocketAddress.dot ∉ text.val := by simpa using fits
        rw [if_neg plain, if_pos (documented.colons address text printed)]
  rw [parsed, ofParsed, read]

end AddressValue

namespace SocketAddress

section Trip

variable {inet : Inet} (documented : inet.Documented) {family : Family} {native : Sockaddr}
  (known : familyOf native.bytes = some family) (s : SocketAddress) (memory : Block 28)
  {text : CString}
  (printed : inet.ntop family (AddressValue.addressIn family (native.structureOf known))
    family.textSize = some text)
include printed

theorem value_second :
    ((s.setNativeAddress native).2.throughText inet memory).value inet =
      .ofText inet text.val (portOf native.bytes) := by
  have port : portOf (native.structureOf known).val = portOf native.bytes :=
    portOf_take family native.bytes
  rw [value_throughText, value_setNative inet s known, AddressValue.ofNative, printed]
  exact congrArg (AddressValue.ofText inet text.val) port

include documented

theorem kept_of_printed (fits : family = .inet ∨ dot ∉ text.val) :
    s.KeepsAddress inet native family memory := by
  have second := value_second known s memory printed
  rw [AddressValue.ofText_printed inet documented printed _ fits] at second
  have shown := congrArg AddressValue.nativeAddress second
  refine ⟨congrArg AddressValue.protocol second, _, shown, ?_, ?_, ?_⟩
  · exact AddressValue.familyOf_sockaddrBytes _ _
  · rw [AddressValue.addressBytes_sockaddrBytes]
    exact addressBytes_take family native.bytes
  · exact AddressValue.portOf_sockaddrBytes _ _

omit documented

theorem lost_of_dot (sixth : family = .inet6) (dotted : dot ∈ text.val) :
    ¬ s.KeepsAddress inet native family memory := by
  rintro ⟨kept, -⟩
  have second := value_second known s memory printed
  rw [AddressValue.ofText, if_pos dotted] at second
  have protocol := (congrArg AddressValue.protocol second).symm.trans kept
  rw [sixth] at protocol
  rcases AddressValue.ofParsed_protocol inet .inet text.val (portOf native.bytes) with
    fourth | unknown
  · rw [fourth] at protocol
    cases protocol
  · rw [unknown] at protocol
    cases protocol

end Trip

theorem mapped_lost {inet : Inet} (documented : inet.Documented) {native : Sockaddr}
    (known : familyOf native.bytes = some .inet6)
    (mapped : Mapped (AddressValue.addressIn .inet6 (native.structureOf known)))
    (s : SocketAddress) (memory : Block 28) : ¬ s.KeepsAddress inet native .inet6 memory := by
  obtain ⟨text, printed⟩ :=
    documented.prints .inet6 (AddressValue.addressIn .inet6 (native.structureOf known))
  exact lost_of_dot known s memory printed rfl (documented.mapped _ text mapped printed)

/-- Exactly the IPv6 addresses that are printed with a dot are lost. -/
theorem keepsAddress_iff {inet : Inet} (documented : inet.Documented) {family : Family}
    {native : Sockaddr} (known : familyOf native.bytes = some family) (s : SocketAddress)
    (memory : Block 28) :
    s.KeepsAddress inet native family memory ↔
      family = .inet ∨ PrintsNoDot inet family
        (AddressValue.addressIn family (native.structureOf known)) := by
  obtain ⟨text, printed⟩ :=
    documented.prints family (AddressValue.addressIn family (native.structureOf known))
  constructor
  · intro kept
    cases family with
    | inet => exact .inl rfl
    | inet6 =>
        refine .inr fun other found dotted => ?_
        exact lost_of_dot known s memory found rfl dotted kept
  · intro fits
    exact kept_of_printed documented known s memory printed
      (fits.imp_right fun none => none text printed)

end SocketAddress

/-! Functions that are documented so: they print the address `::ffff:1.2.3.4` as the library does,
and one whose groups have four digits each. -/

namespace Inet

open SocketAddress

def digit (value : Nat) : UInt8 := UInt8.ofNat (if value < 10 then 48 + value else 87 + value)

def digitValue (character : UInt8) : Nat :=
  if character < 97 then character.toNat - 48 else character.toNat - 87

def decimal (byte : UInt8) : List UInt8 :=
  let value := byte.toNat
  if value < 10 then [digit value]
  else if value < 100 then [digit (value / 10), digit (value % 10)]
  else [digit (value / 100), digit (value / 10 % 10), digit (value % 10)]

def hexadecimal (byte : UInt8) : List UInt8 := [digit (byte.toNat / 16), digit (byte.toNat % 16)]

def readByte (write : UInt8 → List UInt8) (base : Nat) (text : List UInt8) : Option UInt8 :=
  let byte := UInt8.ofNat (text.foldl (fun value digit => value * base + digitValue digit) 0)
  if write byte = text then some byte else none

def dotted (bytes : List UInt8) : List UInt8 := [dot].intercalate (bytes.map decimal)

def readDotted (text : List UInt8) : Option (List UInt8) :=
  (text.splitOn dot).mapM (readByte decimal 10)

def pairs : List UInt8 → List (UInt8 × UInt8)
  | first :: second :: rest => (first, second) :: pairs rest
  | _ => []

def group (pair : UInt8 × UInt8) : List UInt8 := hexadecimal pair.1 ++ hexadecimal pair.2

def readGroup (text : List UInt8) : Option (UInt8 × UInt8) :=
  (readByte hexadecimal 16 (text.take 2)).bind fun first =>
    (readByte hexadecimal 16 (text.drop 2)).map (first, ·)

def grouped (bytes : List UInt8) : List UInt8 := [colon].intercalate ((pairs bytes).map group)

def readGrouped (text : List UInt8) : Option (List UInt8) :=
  ((text.splitOn colon).mapM readGroup).map (·.flatMap fun pair => [pair.1, pair.2])

def mappedBytes : List UInt8 := List.replicate 10 0 ++ [255, 255]

/-- `::ffff:` -/
def mappedText : List UInt8 := [58, 58, 102, 102, 102, 102, 58]

def print : Family → List UInt8 → List UInt8
  | .inet, bytes => dotted bytes
  | .inet6, bytes =>
      if bytes.take 12 = mappedBytes then mappedText ++ dotted (bytes.drop 12) else grouped bytes

def read : Family → List UInt8 → Option (List UInt8)
  | .inet, text => readDotted text
  | .inet6, text =>
      if mappedText.isPrefixOf text then (readDotted (text.drop 7)).map (mappedBytes ++ ·)
      else readGrouped text

def plain : Inet :=
  { ntop := fun family address _ => some (cStr (print family address.val))
    pton := fun family text =>
      match read family text.val with
      | some bytes =>
          if sized : bytes.length = family.addressSize then (1, ⟨bytes, sized⟩) else (0, .zero _)
      | none => (0, .zero _) }

theorem forall_byte {property : UInt8 → Prop} (each : ∀ value < 256, property (UInt8.ofNat value))
    (byte : UInt8) : property byte := by
  have holds := each byte.toNat byte.toNat_lt
  rwa [UInt8.ofNat_toNat] at holds

theorem readByte_decimal : ∀ byte, readByte decimal 10 (decimal byte) = some byte := by
  apply forall_byte
  decide +kernel

theorem readByte_hexadecimal : ∀ byte, readByte hexadecimal 16 (hexadecimal byte) = some byte := by
  apply forall_byte
  decide +kernel

def Plain (character : UInt8) : Prop := character ≠ 0 ∧ character ≠ dot ∧ character ≠ colon

instance : DecidablePred Plain := fun _ => inferInstanceAs (Decidable (_ ∧ _ ∧ _))

theorem digit_plain {value : Nat} (small : value < 16) : Plain (digit value) := by
  have each : ∀ value < 16, Plain (digit value) := by decide
  exact each value small

theorem decimal_plain (byte : UInt8) : ∀ character ∈ decimal byte, Plain character := by
  have small : byte.toNat < 256 := byte.toNat_lt
  intro character member
  rw [decimal] at member
  split_ifs at member
  all_goals
    simp only [List.mem_cons, List.not_mem_nil, or_false] at member
  · rw [member]
    exact digit_plain (by omega)
  · rcases member with rfl | rfl <;> exact digit_plain (by omega)
  · rcases member with rfl | rfl | rfl <;> exact digit_plain (by omega)

theorem hexadecimal_plain (byte : UInt8) : ∀ character ∈ hexadecimal byte, Plain character := by
  have small : byte.toNat < 256 := byte.toNat_lt
  intro character member
  simp only [hexadecimal, List.mem_cons, List.not_mem_nil, or_false] at member
  rcases member with rfl | rfl <;> exact digit_plain (by omega)

theorem mapM_written {Item : Type} {write : Item → List UInt8} {read : List UInt8 → Option Item}
    (inverse : ∀ item, read (write item) = some item) (items : List Item) :
    (items.map write).mapM read = some items := by
  induction items with
  | nil => rfl
  | cons item items ih => simp [inverse, ih]

theorem mem_intercalate {separator character : UInt8} {parts : List (List UInt8)}
    (member : character ∈ [separator].intercalate parts) :
    character = separator ∨ ∃ part ∈ parts, character ∈ part := by
  induction parts with
  | nil => simp at member
  | cons part parts ih =>
      cases parts with
      | nil =>
          rw [List.intercalate_singleton] at member
          exact .inr ⟨part, List.mem_cons_self, member⟩
      | cons other rest =>
          rw [List.intercalate_cons_cons, List.mem_append, List.mem_append, List.mem_singleton]
            at member
          rcases member with (here | same) | later
          · exact .inr ⟨part, List.mem_cons_self, here⟩
          · exact .inl same
          · refine (ih later).imp_right ?_
            rintro ⟨found, listed, inside⟩
            exact ⟨found, List.mem_cons_of_mem _ listed, inside⟩

theorem separator_mem {separator : UInt8} {parts : List (List UInt8)}
    (apart : ∀ part ∈ parts, separator ∉ part) (several : 1 < parts.length) :
    separator ∈ [separator].intercalate parts := by
  by_contra missing
  have whole := List.splitOn_eq_singleton missing
  have nonempty : parts ≠ [] := by
    rintro rfl
    simp at several
  rw [List.splitOn_intercalate separator apart nonempty] at whole
  rw [whole] at several
  simp at several

theorem dotted_apart (bytes : List UInt8) :
    ∀ part ∈ bytes.map decimal, dot ∉ part := by
  intro part listed member
  obtain ⟨byte, -, rfl⟩ := List.mem_map.mp listed
  exact (decimal_plain byte dot member).2.1 rfl

theorem group_plain (pair : UInt8 × UInt8) : ∀ character ∈ group pair, Plain character := by
  intro character member
  rw [group, List.mem_append] at member
  rcases member with first | second
  · exact hexadecimal_plain pair.1 character first
  · exact hexadecimal_plain pair.2 character second

theorem grouped_apart (bytes : List UInt8) :
    ∀ part ∈ (pairs bytes).map group, colon ∉ part := by
  intro part listed member
  obtain ⟨pair, -, rfl⟩ := List.mem_map.mp listed
  exact (group_plain pair colon member).2.2 rfl

theorem readDotted_dotted {bytes : List UInt8} (some_byte : bytes ≠ []) :
    readDotted (dotted bytes) = some bytes := by
  rw [readDotted, dotted, List.splitOn_intercalate dot (dotted_apart bytes) (by simpa),
    mapM_written readByte_decimal]

theorem readGroup_group (pair : UInt8 × UInt8) : readGroup (group pair) = some pair := by
  have first : (group pair).take 2 = hexadecimal pair.1 := rfl
  have second : (group pair).drop 2 = hexadecimal pair.2 := rfl
  rw [readGroup, first, second, readByte_hexadecimal, readByte_hexadecimal]
  rfl

theorem pairs_flat (count : Nat) {bytes : List UInt8} (even : bytes.length = 2 * count) :
    (pairs bytes).length = count ∧
      ((pairs bytes).flatMap fun pair => [pair.1, pair.2]) = bytes := by
  induction count generalizing bytes with
  | zero =>
      rw [Nat.mul_zero, List.length_eq_zero_iff] at even
      rw [even]
      exact ⟨rfl, rfl⟩
  | succ count ih =>
      match bytes, even with
      | first :: second :: rest, even =>
          have fewer : rest.length = 2 * count := by
            simp only [List.length_cons] at even
            omega
          obtain ⟨length, flat⟩ := ih fewer
          simp [pairs, length, flat]

section Groups

variable {bytes : List UInt8} (sized : bytes.length = 2 * 8)
include sized

theorem groups_several : 1 < ((pairs bytes).map group).length := by
  rw [List.length_map, (pairs_flat 8 sized).1]
  decide

theorem splitOn_grouped : (grouped bytes).splitOn colon = (pairs bytes).map group := by
  have several := groups_several sized
  apply List.splitOn_intercalate colon (grouped_apart bytes)
  rintro none
  simp [none] at several

theorem readGrouped_grouped : readGrouped (grouped bytes) = some bytes := by
  rw [readGrouped, splitOn_grouped sized, mapM_written readGroup_group, Option.map_some,
    (pairs_flat 8 sized).2]

theorem grouped_not_mapped : mappedText.isPrefixOf (grouped bytes) = false := by
  by_contra mapped
  rw [Bool.not_eq_false, List.isPrefixOf_iff_prefix] at mapped
  obtain ⟨rest, text⟩ := mapped
  have parts := splitOn_grouped sized
  rw [← text, mappedText, List.cons_append, List.splitOn_cons_eq_if_modifyHead] at parts
  have empty : [] ∈ (pairs bytes).map group := by
    rw [← parts]
    exact List.mem_cons_self
  obtain ⟨pair, -, nothing⟩ := List.mem_map.mp empty
  simp [group, hexadecimal] at nothing

end Groups

theorem dotted_characters (bytes : List UInt8) :
    ∀ character ∈ dotted bytes, character = dot ∨ Plain character := by
  intro character member
  refine (mem_intercalate member).imp_right ?_
  rintro ⟨part, listed, inside⟩
  obtain ⟨byte, -, rfl⟩ := List.mem_map.mp listed
  exact decimal_plain byte character inside

theorem print_nonzero (family : Family) (bytes : List UInt8) : 0 ∉ print family bytes := by
  have dots (bytes : List UInt8) : 0 ∉ dotted bytes := by
    intro member
    rcases dotted_characters bytes 0 member with same | plain
    · cases same
    · exact plain.1 rfl
  cases family with
  | inet => exact dots bytes
  | inet6 =>
      intro member
      rw [print] at member
      split at member
      · rw [List.mem_append] at member
        rcases member with first | second
        · revert first
          decide
        · exact dots _ second
      · rcases mem_intercalate member with same | ⟨part, listed, inside⟩
        · cases same
        · obtain ⟨pair, -, rfl⟩ := List.mem_map.mp listed
          exact (group_plain pair 0 inside).1 rfl

theorem read_print (family : Family) (address : Address family) :
    read family (print family address.val) = some address.val := by
  obtain ⟨bytes, sized⟩ := address
  cases family with
  | inet =>
      apply readDotted_dotted
      rintro rfl
      cases sized
  | inet6 =>
      dsimp only
      by_cases mapped : bytes.take 12 = mappedBytes
      · have behind : bytes.drop 12 ≠ [] := by
          intro nothing
          have length := congrArg List.length nothing
          rw [List.length_drop, sized] at length
          cases length
        have begins : mappedText.isPrefixOf (mappedText ++ dotted (bytes.drop 12)) = true := by
          rw [List.isPrefixOf_iff_prefix]
          exact List.prefix_append ..
        have rest : (mappedText ++ dotted (bytes.drop 12)).drop 7 = dotted (bytes.drop 12) := rfl
        rw [print, if_pos mapped, read, if_pos begins, rest, readDotted_dotted behind,
          Option.map_some, ← mapped, List.take_append_drop]
      · have other := grouped_not_mapped sized
        rw [print, if_neg mapped, read, if_neg (by simp [other]), readGrouped_grouped sized]

theorem plain_documented : plain.Documented := by
  have text (family : Family) (address : Address family) :
      (cStr (print family address.val)).val = print family address.val :=
    congrArg Subtype.val (cStr_val ⟨_, print_nonzero family address.val⟩)
  constructor
  case prints => exact fun family address => ⟨_, rfl⟩
  case inverse =>
    rintro family address _ ⟨⟩
    have found : read family (cStr (print family address.val)).val = some address.val := by
      rw [text, read_print]
    simp only [plain, found]
    rw [dif_pos address.property]
  case dots =>
    rintro address _ ⟨⟩
    rw [text]
    constructor
    · apply separator_mem (dotted_apart address.val)
      rw [List.length_map, address.property]
      decide
    · intro member
      rcases dotted_characters _ _ member with same | plain
      · cases same
      · exact plain.2.2 rfl
  case colons =>
    rintro address _ ⟨⟩
    rw [text, print]
    split
    · exact List.mem_cons_self
    · exact separator_mem (grouped_apart address.val) (groups_several address.property)
  case mapped =>
    rintro address _ mapped ⟨⟩
    have front : address.val.take 12 = mappedBytes := mapped
    rw [text, print, if_pos front]
    apply List.mem_append_right
    apply separator_mem (dotted_apart _)
    rw [List.length_map, List.length_drop, address.property]
    decide

end Inet

namespace SocketAddress

/-- `::ffff:1.2.3.4`, port 8080. -/
def mappedPeer : Sockaddr :=
  { bytes := [10, 0, 31, 144, 0, 0, 0, 0, 0, 0, 0, 0, 0, 0, 0, 0, 0, 0, 255, 255, 1, 2, 3, 4,
      0, 0, 0, 0]
    enough := by
      intro family known
      cases family <;> decide }

/-- `2001:1db8:1111:2222:3333:4444:5555:6666`, port 8080. -/
def groupedPeer : Sockaddr :=
  { bytes := [10, 0, 31, 144, 0, 0, 0, 0, 32, 1, 29, 184, 17, 17, 34, 34, 51, 51, 68, 68, 85, 85,
      102, 102, 0, 0, 0, 0]
    enough := by
      intro family known
      cases family <;> decide }

theorem mappedPeer_unknown :
    Inet.plain.Documented ∧ familyOf mappedPeer.bytes = some .inet6 ∧
      ¬ (create (.zero 28)).KeepsAddress Inet.plain mappedPeer .inet6 (.zero 28) := by
  refine ⟨Inet.plain_documented, by decide, ?_⟩
  rintro ⟨kept, -⟩
  revert kept
  decide +kernel

theorem keepsAddress_iff_groupedPeer :
    (create (.zero 28)).KeepsAddress Inet.plain groupedPeer .inet6 (.zero 28) := by
  apply (keepsAddress_iff Inet.plain_documented (by decide) _ _).mpr
  right
  rintro _ ⟨⟩
  decide +kernel

end SocketAddress

end ZBlueNet
