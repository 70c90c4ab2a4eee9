import ZBlueNet.AddressText

/-!
The helpers of `SocketAddress` between text and binary addresses. The one that prints an IPv6
address asks `inet_ntop` for IPv4.
-/

namespace ZBlueNet

open Bytes

def Family.addrStrLen : Family → Nat
  | .inet => 16
  | .inet6 => 46

/-- With enough space an address is printed, `inet_pton` undoes that, and it does not take the text
of an IPv4 address for IPv6. -/
structure Inet.Invertible (inet : Inet) : Prop where
  prints : ∀ family address size, family.addrStrLen ≤ size →
    ∃ text, inet.ntop family address size = some text
  inverse : ∀ family address size text, inet.ntop family address size = some text →
    inet.pton family text = (1, address)
  rejects : ∀ address size text, inet.ntop .inet address size = some text →
    (inet.pton .inet6 text).1 ≠ 1

namespace SocketAddress

/-- `htonl`, with what it leaves in `s_addr`. -/
def networkBytes (binary : UInt32) : Address .inet :=
  ⟨integerBytes 4 binary.toNat, integerBytes_length 4 binary.toNat⟩

/-- `ntohl`. -/
def hostValue (address : Address .inet) : UInt32 := UInt32.ofNat (assemble address.val)

def textToBin (inet : Inet) (family : Family) (text : List UInt8) : Option (Address family) :=
  let read := inet.pton family (cStr text)
  if read.1 ≠ 1 then none else some read.2

def binToText (inet : Inet) (family : Family) (address : Address family) (size : Nat)
    (text : List UInt8) : List UInt8 :=
  match inet.ntop family address size with
  | none => text
  | some printed => printed.val

def ipV4TextToBin (inet : Inet) (text : List UInt8) : Option UInt32 :=
  (textToBin inet .inet text).map hostValue

def ipV4BinToText (inet : Inet) (binary : UInt32) (text : List UInt8) : List UInt8 :=
  binToText inet .inet (networkBytes binary) 32 text

def ipV6TextToBin (inet : Inet) (text : List UInt8) : Option (Address .inet6) :=
  textToBin inet .inet6 text

/-- What `inet_ntop` finds at the beginning of an `in6_addr` when it is asked for `AF_INET`. -/
def leadingBytes (binary : Address .inet6) : Address .inet :=
  ⟨binary.val.take 4, by rw [List.length_take, binary.property]; rfl⟩

def ipV6BinToText (inet : Inet) (binary : Address .inet6) (text : List UInt8) : List UInt8 :=
  binToText inet .inet (leadingBytes binary) 128 text

inductive BinaryAddress
  | ipV4 (binary : UInt32)
  | ipV6 (binary : Address .inet6)
deriving DecidableEq

/-- The address is read from the text that it was printed to, over the text that was there. -/
def ComesBack (inet : Inet) (text : List UInt8) : BinaryAddress → Prop
  | .ipV4 binary => ipV4TextToBin inet (ipV4BinToText inet binary text) = some binary
  | .ipV6 binary => ipV6TextToBin inet (ipV6BinToText inet binary text) = some binary

theorem hostValue_networkBytes (binary : UInt32) : hostValue (networkBytes binary) = binary := by
  have small : binary.toNat < 256 ^ 4 := binary.toNat_lt
  rw [hostValue, networkBytes, assemble_integerBytes, Nat.mod_eq_of_lt small, UInt32.ofNat_toNat]

section Helpers

variable {inet : Inet} (invertible : inet.Invertible)
include invertible

theorem binToText_printed {family : Family} (address : Address family) {size : Nat}
    (enough : family.addrStrLen ≤ size) (text : List UInt8) :
    ∃ printed, inet.ntop family address size = some printed ∧
      binToText inet family address size text = printed.val := by
  obtain ⟨printed, found⟩ := invertible.prints family address size enough
  refine ⟨printed, found, ?_⟩
  rw [binToText, found]

theorem textToBin_binToText {family : Family} (address : Address family) {size : Nat}
    (enough : family.addrStrLen ≤ size) (text : List UInt8) :
    textToBin inet family (binToText inet family address size text) = some address := by
  obtain ⟨printed, found, shown⟩ := binToText_printed invertible address enough text
  rw [shown, textToBin, cStr_val, invertible.inverse family address size printed found]
  rfl

theorem ipV4TextToBin_binToText (binary : UInt32) (text : List UInt8) :
    ipV4TextToBin inet (ipV4BinToText inet binary text) = some binary := by
  have enough : Family.inet.addrStrLen ≤ 32 := by decide
  rw [ipV4TextToBin, ipV4BinToText, textToBin_binToText invertible _ enough, Option.map_some,
    hostValue_networkBytes]

theorem ipV6TextToBin_binToText (binary : Address .inet6) (text : List UInt8) :
    ipV6TextToBin inet (ipV6BinToText inet binary text) = none := by
  have enough : Family.inet.addrStrLen ≤ 128 := by decide
  obtain ⟨printed, found, shown⟩ :=
    binToText_printed invertible (leadingBytes binary) enough text
  rw [ipV6TextToBin, ipV6BinToText, shown, textToBin, cStr_val]
  exact if_pos (invertible.rejects _ _ printed found)

theorem ipV4TextToBin_ipV6BinToText (binary : Address .inet6) (text : List UInt8) :
    ipV4TextToBin inet (ipV6BinToText inet binary text) = some (hostValue (leadingBytes binary)) := by
  have enough : Family.inet.addrStrLen ≤ 128 := by decide
  rw [ipV4TextToBin, ipV6BinToText, textToBin_binToText invertible _ enough, Option.map_some]

/-- Every IPv4 address comes back from its text, and no IPv6 address does. -/
theorem comesBack_iff (text : List UInt8) (address : BinaryAddress) :
    ComesBack inet text address ↔ ∃ binary, address = .ipV4 binary := by
  cases address with
  | ipV4 binary =>
      have back := ipV4TextToBin_binToText invertible binary text
      exact iff_of_true back ⟨binary, rfl⟩
  | ipV6 binary =>
      have none := ipV6TextToBin_binToText invertible binary text
      rw [ComesBack, none]
      simp

end Helpers

end SocketAddress

namespace Inet

open SocketAddress

theorem colon_not_mem_dotted (bytes : List UInt8) : colon ∉ dotted bytes := by
  intro member
  rcases dotted_characters bytes colon member with same | plain
  · cases same
  · exact plain.2.2 rfl

theorem readGrouped_length {text bytes : List UInt8} (whole : colon ∉ text)
    (found : readGrouped text = some bytes) : bytes.length = 2 := by
  rw [readGrouped, List.splitOn_eq_singleton whole] at found
  cases group : readGroup text with
  | none => simp [group] at found
  | some pair =>
      simp only [List.mapM_cons, List.mapM_nil, group, Option.pure_def, Option.bind_eq_bind,
        Option.bind_some, Option.map_some, Option.some.injEq] at found
      rw [← found]
      rfl

theorem read_inet6_length {text bytes : List UInt8} (whole : colon ∉ text)
    (found : read .inet6 text = some bytes) : bytes.length = 2 := by
  have other : ¬ mappedText.isPrefixOf text := by
    rw [List.isPrefixOf_iff_prefix]
    intro mapped
    exact whole (mapped.subset List.mem_cons_self)
  rw [read, if_neg other] at found
  exact readGrouped_length whole found

theorem plain_invertible : plain.Invertible := by
  constructor
  case prints => exact fun family address size _ => ⟨_, rfl⟩
  case inverse =>
    intro family address size text printed
    exact plain_documented.inverse family address text printed
  case rejects =>
    rintro address size _ ⟨⟩
    have text : (cStr (print .inet address.val)).val = dotted address.val :=
      congrArg Subtype.val (cStr_val ⟨_, print_nonzero .inet address.val⟩)
    have whole : colon ∉ (cStr (print .inet address.val)).val := by
      rw [text]
      exact colon_not_mem_dotted address.val
    dsimp only [plain]
    split
    · rename_i bytes found
      have two := read_inet6_length whole found
      rw [dif_neg (by rw [two]; decide)]
      decide
    · decide

end Inet

namespace SocketAddress

theorem comesBack_iff_loopback : ComesBack Inet.plain [] (.ipV4 2130706433) := by
  apply (comesBack_iff Inet.plain_invertible _ _).mpr
  exact ⟨_, rfl⟩

/-- `2001:db8::1` is printed as `32.1.13.184`. -/
theorem ipV6_lost :
    let binary : Address .inet6 := ⟨[32, 1, 13, 184, 0, 0, 0, 0, 0, 0, 0, 0, 0, 0, 0, 1], rfl⟩
    Inet.plain.Invertible ∧
      ipV6BinToText Inet.plain binary [] = [51, 50, 46, 49, 46, 49, 51, 46, 49, 56, 52] ∧
      ¬ ComesBack Inet.plain [] (.ipV6 binary) := by
  refine ⟨Inet.plain_invertible, by decide, ?_⟩
  rw [ComesBack]
  decide

end SocketAddress

end ZBlueNet
