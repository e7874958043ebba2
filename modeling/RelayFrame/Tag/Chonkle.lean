import RelayFrame.Bytes

/-!
# Chonkle

A 64-bit FNV-1a hash folds each byte of a message into the low end of its
state, which is then multiplied by a fixed odd number.  The state after one
part of a message is all that the hash of the rest depends on.

Chonkle spreads such a hash over fifteen bytes so that each of them keeps to a
narrow band that a middlebox can check without the secret.  A byte is a field
of the hash plus a fixed base, or one of a few values picked by a field.  Three
bits of the hash are in no field, and three others are in two.
-/

namespace RelayFrame

/-! ## The hash -/

namespace Hash

def basis : UInt64 := 0xcbf29ce484222325

def prime : UInt64 := 0x100000001b3

/-- The state after one more byte. -/
def absorb (state : UInt64) (byte : UInt8) : UInt64 :=
  (state ^^^ byte.toUInt64) * prime

def absorbAll (state : UInt64) (bytes : Bytes) : UInt64 :=
  bytes.foldl absorb state

def hash (bytes : Bytes) : UInt64 :=
  absorbAll basis bytes

theorem absorbAll_append
    (state : UInt64) (first second : Bytes) :
    absorbAll state (first ++ second) =
      absorbAll (absorbAll state first) second :=
  List.foldl_append

end Hash

/-! ## The tag -/

abbrev Chonkle := Vector UInt8 15

namespace Chonkle

def size : Nat := 15

/-- The `width` bits of a hash that begin at bit `low`, as a number. -/
def field (hash : UInt64) (low width : Nat) : Nat :=
  (hash.toNat >>> low) % (1 <<< width)

/-- The values that the fifteen bytes of a tag hold. -/
def cells (hash : UInt64) : Vector Nat 15 :=
  #v[field hash 54 2 + 42,
    field hash 24 5 + 200,
    field hash 18 6 + 5,
    field hash 0 8,
    field hash 16 2 + 78,
    field hash 32 7 + 96,
    field hash 10 6 + 100,
    if field hash 56 1 = 0 then 79 else 7,
    if field hash 39 1 = 0 then 37 else 83,
    field hash 40 3 + 124,
    field hash 13 3 + 175,
    field hash 48 6 + 33,
    match field hash 8 2 with
      | 0 => 97
      | 1 => 5
      | 2 => 43
      | _ => 13,
    field hash 43 5 + 210,
    field hash 57 7 + 17]

/-- The tag that a hash is spread over. -/
def scatter (hash : UInt64) : Chonkle :=
  (cells hash).map UInt8.ofNat

def ofMessage (message : Bytes) : Chonkle :=
  scatter (Hash.hash message)

end Chonkle

end RelayFrame
