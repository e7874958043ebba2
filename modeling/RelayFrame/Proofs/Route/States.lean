import RelayFrame.Proofs.Hash.Multiples
import RelayFrame.Proofs.Hash.Reachable
import RelayFrame.Proofs.Route.Lengths
import RelayFrame.Proofs.Tag.Preimages
import RelayFrame.Stream.Item

/-!
# How much of the magic a tag shows

A Chonkle depends on the magic only through the state that the magic leaves.
Hashing the route and the length from there loses nothing, so the tag shows of
that state what it shows of the final hash: eight states give each tag.
-/

namespace RelayFrame

namespace Hash

theorem absorbAll_bijective (bytes : Bytes) :
    Function.Bijective (absorbAll · bytes) :=
  ⟨fun _ _ => absorbAll_injective, exists_absorbAll_eq bytes⟩

end Hash

namespace Route

open Packet

def finalHash (route : Route) (length : UInt32) (state : UInt64) : UInt64 :=
  Hash.absorbAll state (route.message length)

/-- The Chonkle of any magic that leaves the given state. -/
def chonkleFrom (route : Route) (length : UInt32) (state : UInt64) :
    Chonkle :=
  Chonkle.scatter (route.finalHash length state)

/-- A Chonkle depends on the magic through the state it leaves only. -/
theorem chonkle_eq_chonkleFrom
    (route : Route) (magic : Bytes) (length : UInt32) :
    route.chonkle magic length = route.chonkleFrom length (Hash.hash magic) := by
  rw [chonkle, Chonkle.ofMessage, Hash.hash, Hash.absorbAll_append]
  rfl

/-- As many states give a tag as there are hashes behind it. -/
theorem ncard_setOf_chonkleFrom_eq
    (route : Route) (length : UInt32) (state : UInt64) :
    {other | route.chonkleFrom length other =
        route.chonkleFrom length state}.ncard = 8 := by
  have bijective := Hash.absorbAll_bijective (route.message length)
  calc
    _ = (Set.preimage (route.finalHash length)
          {hash | Chonkle.scatter hash =
            Chonkle.scatter (route.finalHash length state)}).ncard := rfl
    _ = {hash | Chonkle.scatter hash =
          Chonkle.scatter (route.finalHash length state)}.ncard :=
      Set.ncard_preimage_of_injective_subset_range bijective.injective
        fun hash _ => bijective.surjective hash
    _ = 8 := Chonkle.ncard_setOf_scatter_eq _

/-- Magics that leave the same state can stand for each other. -/
theorem accepts_eq_of_hash_eq
    {magic otherMagic : Bytes} (same : Hash.hash magic = Hash.hash otherMagic)
    (route : Route) (packet : Bytes) :
    route.accepts magic packet = route.accepts otherMagic packet := by
  rw [Bool.eq_iff_iff, accepts_iff, accepts_iff, chonkle_eq_chonkleFrom, same,
    ← chonkle_eq_chonkleFrom]

/-- The Chonkle of a packet is a function of the state that the magic leaves,
and every state is left by some magic.  Two states give the same tag exactly
when the final hashes agree in all bits but 29, 30 and 31; exactly eight
states give each tag that occurs.  Magics that leave the same state are let in
interchangeably. -/
theorem chonkle_shows_state_up_to_eight :
    (∀ state, ∃ magic, Hash.hash magic = state) ∧
      (∀ (route : Route) (length : UInt32),
        (∀ magic, route.chonkle magic length =
          route.chonkleFrom length (Hash.hash magic)) ∧
        (∀ first second,
          route.chonkleFrom length first = route.chonkleFrom length second ↔
            AgreeInShownBits (route.finalHash length first)
              (route.finalHash length second)) ∧
        ∀ tag ∈ Set.range (route.chonkleFrom length),
          {state | route.chonkleFrom length state = tag}.ncard = 8) ∧
      ∀ magic otherMagic, Hash.hash magic = Hash.hash otherMagic →
        ∀ (route : Route) (packet : Bytes),
          route.accepts magic packet = route.accepts otherMagic packet := by
  refine ⟨Hash.reachable, fun route length => ⟨?_, ?_, ?_⟩, ?_⟩
  · intro magic
    exact chonkle_eq_chonkleFrom route magic length
  · intro first second
    exact Chonkle.scatter_eq_iff_agreeInShownBits
  · rintro tag ⟨state, rfl⟩
    exact ncard_setOf_chonkleFrom_eq route length state
  · intro magic otherMagic same route packet
    exact accepts_eq_of_hash_eq same route packet

/-- Eight states give the tag that a magic of zeros has on a route, and two
magics of twenty letters are let in interchangeably. -/
theorem eight_states_of_zero_magic_and_colliding_magics :
    let route : Route := ⟨⟨[1, 2, 3, 4], 1000⟩, ⟨[5, 6, 7, 8], 2000⟩⟩
    let magic := Stream.textBytes "8yn0iYCKYHlIj4-BwPqk"
    let otherMagic := Stream.textBytes "GReLUrM4wMqfg9yzV3KQ"
    {state | route.chonkleFrom 20 state =
        route.chonkle [0, 0, 0, 0, 0, 0, 0, 0] 20}.ncard = 8 ∧
      magic ≠ otherMagic ∧ Hash.hash magic = Hash.hash otherMagic ∧
      ∀ packet, route.accepts magic packet = route.accepts otherMagic packet := by
  intro route magic otherMagic
  obtain ⟨-, tags, interchangeable⟩ := chonkle_shows_state_up_to_eight
  obtain ⟨ofMagic, -, eight⟩ := tags route 20
  have occurs :
      route.chonkle [0, 0, 0, 0, 0, 0, 0, 0] 20 ∈
        Set.range (route.chonkleFrom 20) :=
    ⟨_, (ofMagic _).symm⟩
  have collide : Hash.hash magic = Hash.hash otherMagic := by
    decide +kernel
  exact
    ⟨eight _ occurs, by decide +kernel, collide,
      interchangeable magic otherMagic collide route⟩

end Route

end RelayFrame
