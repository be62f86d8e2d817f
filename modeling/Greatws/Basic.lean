import Mathlib.Data.List.Basic
import Mathlib.Tactic.Ring
import Mathlib.Tactic.Linarith

/-!
# Bytes, errors and the configuration

The vocabulary the rest of the development shares: byte strings and the `encoding/binary`
readers the parser uses, Go's `utf8.Valid`, the opcodes and close codes of RFC 6455, the sentinel
errors of the package, and the `Config` fields the dispatcher and the write path read.

Some of it lives outside the sources (`wsutil`, the standard library, `config.go`); those
definitions say so and follow the spec.
-/

namespace Greatws

/-- A Go `[]byte`. -/
abbrev Bytes := List UInt8

/-! ## `encoding/binary` -/

/-- The number the bytes spell in big-endian order. -/
def bigEndian (b : Bytes) : Nat := b.foldl (fun acc x => acc * 256 + x.toNat) 0

/-- `binary.BigEndian.Uint16`. -/
def bigEndianUint16 (b : Bytes) : Nat := bigEndian (b.take 2)

/-- `binary.BigEndian.Uint64`. -/
def bigEndianUint64 (b : Bytes) : Nat := bigEndian (b.take 8)

/-- `binary.LittleEndian.Uint32`. -/
def littleEndianUint32 (b : Bytes) : UInt32 := UInt32.ofNat (bigEndian (b.take 4).reverse)

/-- Go's conversion `int64(u)` of a `uint64`: values with the top bit set wrap to negatives. -/
def int64OfUint64 (v : Nat) : Int := if v < 2 ^ 63 then v else v - 2 ^ 64

theorem foldl_bigEndian (b : Bytes) (a : Nat) :
    b.foldl (fun acc x => acc * 256 + x.toNat) a = a * 256 ^ b.length + bigEndian b := by
  induction b generalizing a with
  | nil => simp [bigEndian]
  | cons x b ih =>
    simp only [List.foldl_cons, bigEndian, List.length_cons] at ih ⊢
    rw [ih, ih (0 * 256 + x.toNat)]
    ring

theorem bigEndian_cons (x : UInt8) (b : Bytes) :
    bigEndian (x :: b) = x.toNat * 256 ^ b.length + bigEndian b := by
  rw [bigEndian, List.foldl_cons, foldl_bigEndian]
  ring

theorem bigEndian_lt (b : Bytes) : bigEndian b < 256 ^ b.length := by
  induction b with
  | nil => simp [bigEndian]
  | cons x b ih =>
    have hx : x.toNat < 256 := x.val.isLt
    rw [bigEndian_cons, List.length_cons, pow_succ]
    nlinarith

theorem bigEndianUint64_lt {b : Bytes} (hb : b.length = 8) (htop : b.getD 0 0 < 0x80) :
    bigEndianUint64 b < 2 ^ 63 := by
  match b, hb with
  | x :: r, hb =>
    have hr : r.length = 7 := by simpa using hb
    have hx : x.toNat < 128 := htop
    have hlt := bigEndian_lt r
    rw [bigEndianUint64, List.take_of_length_le (le_of_eq hb), bigEndian_cons, hr]
    rw [hr] at hlt
    norm_num at hlt ⊢
    omega

theorem bigEndianUint64_top {b : Bytes} (hb : b.length = 8) (htop : 0x80 ≤ b.getD 0 0) :
    2 ^ 63 ≤ bigEndianUint64 b ∧ bigEndianUint64 b < 2 ^ 64 := by
  match b, hb with
  | x :: r, hb =>
    have hr : r.length = 7 := by simpa using hb
    have hx : 128 ≤ x.toNat := htop
    have hx' : x.toNat < 256 := x.val.isLt
    have hlt := bigEndian_lt r
    rw [bigEndianUint64, List.take_of_length_le (le_of_eq hb), bigEndian_cons, hr]
    rw [hr] at hlt
    norm_num at hlt ⊢
    omega

theorem int64OfUint64_of_lt {v : Nat} (h : v < 2 ^ 63) : int64OfUint64 v = v := if_pos h

theorem int64OfUint64_neg {v : Nat} (h : 2 ^ 63 ≤ v) (h' : v < 2 ^ 64) : int64OfUint64 v < 0 := by
  rw [int64OfUint64, if_neg (by omega)]
  omega

/-! ## `utf8.Valid` -/

/-- How many continuation bytes follow a leading byte, and the range the first of them must
lie in (Go's `first` and `acceptRanges` tables); `none` for a byte that cannot lead. -/
def utf8Lead (b : UInt8) : Option (Nat × UInt8 × UInt8) :=
  if b < 0xC2 then none
  else if b ≤ 0xDF then some (1, 0x80, 0xBF)
  else if b = 0xE0 then some (2, 0xA0, 0xBF)
  else if b = 0xED then some (2, 0x80, 0x9F)
  else if b ≤ 0xEF then some (2, 0x80, 0xBF)
  else if b = 0xF0 then some (3, 0x90, 0xBF)
  else if b ≤ 0xF3 then some (3, 0x80, 0xBF)
  else if b = 0xF4 then some (3, 0x80, 0x8F)
  else none

/-- The rest of `utf8.Valid`'s scan, owing `need` continuation bytes, the next in `lo..hi`. -/
def utf8ValidFrom : Nat → UInt8 → UInt8 → Bytes → Bool
  | 0, _, _, [] => true
  | _ + 1, _, _, [] => false
  | 0, _, _, b :: r =>
    if b < 0x80 then utf8ValidFrom 0 0x80 0xBF r
    else match utf8Lead b with
      | some (n, lo, hi) => utf8ValidFrom n lo hi r
      | none => false
  | n + 1, lo, hi, b :: r => decide (lo ≤ b) && decide (b ≤ hi) && utf8ValidFrom n 0x80 0xBF r

/-- `utf8.Valid`: the bytes are a sequence of well-formed UTF-8 encodings. -/
def utf8Valid (b : Bytes) : Bool := utf8ValidFrom 0 0x80 0xBF b

example : utf8Valid [0x68, 0xC3, 0xA9] = true ∧ utf8Valid [0xED, 0xA0, 0x80] = false := by decide

/-! ## Opcodes and close codes -/

/-! Opcodes (`opcode.Opcode`) are numbers, as the four low bits of a frame's first byte. -/

namespace Opcode

@[simp] def continuation : Nat := 0
@[simp] def text : Nat := 1
@[simp] def binary : Nat := 2
@[simp] def close : Nat := 8
@[simp] def ping : Nat := 9
@[simp] def pong : Nat := 10

/-- Modelled from the spec: `Opcode.IsControl` of `wsutil` is not in the sources; the spec's
control frames are Close, Ping and Pong. -/
def isControl (op : Nat) : Bool := decide (close ≤ op) && decide (op ≤ pong)

end Opcode

/-- `StatusCode`, the code a Close frame carries. -/
abbrev StatusCode := Nat

@[simp] def normalClosure : StatusCode := 1000
@[simp] def protocolError : StatusCode := 1002

/-- Modelled from the spec: `statusCodeToBytes` is not in the sources; a Close frame's status
code is its first two bytes, big-endian. -/
def statusCodeToBytes (code : StatusCode) : Bytes := [UInt8.ofNat (code / 256), UInt8.ofNat code]

/-- Modelled from the spec: `validCode` is not in the sources; the codes permitted on the wire
are 1000 to 1003, 1007 to 1011 and 3000 to 4999. -/
def validCode (code : Nat) : Bool :=
  (decide (1000 ≤ code) && decide (code ≤ 1003)) || (decide (1007 ≤ code) && decide (code ≤ 1011)) ||
    (decide (3000 ≤ code) && decide (code ≤ 4999))

/-! ## Errors -/

/-- The `errno` values the I/O paths tell apart. -/
inductive Errno where
  | eagain
  | eintr
  | ebadf
  | enoent
  | other (code : Nat)
  deriving DecidableEq, Repr

/-- The errors the modelled functions return, by their sentinel value. -/
inductive GoError where
  | rsv123
  | frameOpcode
  | textNotUTF8
  | maxControlFrameSize
  | notBeFragmented
  | closePayloadTooSmall
  | closeValue
  | opcode
  | closed
  | framePayloadLength
  /-- The error `bytesToCloseErrMsg` builds from a Close payload; it is never nil. -/
  | closeErrMsg (payload : Bytes)
  | eof
  | errno (e : Errno)
  deriving DecidableEq, Repr

/-- A runtime panic of a Go program. -/
inductive GoPanic where
  /-- `b[lo:]` with `lo` outside `0..len(b)`. -/
  | sliceBoundsOutOfRange (lo : Int) (len : Nat)
  /-- `a[i]` with `i` outside `0..len(a)-1`. -/
  | indexOutOfRange (i : Int) (len : Nat)
  /-- `x % 0`. -/
  | integerDivideByZero
  deriving DecidableEq, Repr

/-- Go's `b[lo:]`. -/
def sliceFrom (b : Bytes) (lo : Int) : Except GoPanic Bytes :=
  if 0 ≤ lo ∧ lo ≤ b.length then .ok (b.drop lo.toNat) else .error (.sliceBoundsOutOfRange lo b.length)

/-! ## The configuration -/

/-- The fields of `Config` the dispatcher and the write path read. `enableUTF8Check` says
which check `Config.utf8Check` holds. -/
structure Config where
  compression : Bool
  decompression : Bool
  replyPing : Bool
  ignorePong : Bool
  enableUTF8Check : Bool
  deriving DecidableEq, Repr

/-- Modelled from the spec: the default of `Config.utf8Check` (set in `config.go`, not in the
sources) accepts every payload; `WithServerEnableUTF8Check` and `WithClientEnableUTF8Check`
install `utf8.Valid`. -/
def Config.utf8Check (c : Config) (b : Bytes) : Bool := !c.enableUTF8Check || utf8Valid b

theorem Config.utf8Check_of_valid (c : Config) {b : Bytes} (h : utf8Valid b = true) :
    c.utf8Check b = true := by
  simp [Config.utf8Check, h]

end Greatws
