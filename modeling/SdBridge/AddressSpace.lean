/-!
The addresses of the program, of which mappings take some and give them back. A mapping goes as high
as it can: to the end of the highest free range that is long enough. What is taken and given back
is exactly what the free ranges lose and gain (`total_takeFrom?`, `total_giveTo`).
-/
namespace SdBridge

structure AddressRange where
  first : Nat
  length : Nat
  deriving DecidableEq

def AddressRange.past (r : AddressRange) : Nat := r.first + r.length

/-- The free ranges, the highest first. The first addresses are never given out, and the ends, which
the system moves by chance, are the means. -/
structure AddressSpace where
  free : List AddressRange := [⟨0x55d556000000, 0x29aaa1ffe000⟩, ⟨0x10000, 0x55d555544000⟩]
  deriving DecidableEq

namespace AddressSpace

def widest (space : AddressSpace) : Nat := (space.free.map (·.length)).foldl max 0

def takeFrom? (length : Nat) : List AddressRange → Option (AddressRange × List AddressRange)
  | [] => none
  | r :: rest =>
    if length ≤ r.length then
      some (⟨r.past - length, length⟩, ⟨r.first, r.length - length⟩ :: rest)
    else (takeFrom? length rest).map fun (taken, rest) => (taken, r :: rest)

def giveTo : AddressRange → List AddressRange → List AddressRange
  | given, [] => [given]
  | given, r :: rest =>
    if given.past = r.first then giveTo ⟨given.first, given.length + r.length⟩ rest
    else if given.past < r.first then r :: giveTo given rest
    else if r.past = given.first then ⟨r.first, r.length + given.length⟩ :: rest
    else given :: r :: rest

def take? (space : AddressSpace) (length : Nat) : Option (AddressRange × AddressSpace) :=
  (takeFrom? length space.free).map fun (taken, free) => (taken, { space with free })

def give (space : AddressSpace) (range : AddressRange) : AddressSpace :=
  { space with free := giveTo range space.free }

def total : List AddressRange → Nat
  | [] => 0
  | r :: rest => r.length + total rest

theorem total_takeFrom? {length : Nat} {ranges rest : List AddressRange} {taken : AddressRange}
    (h : takeFrom? length ranges = some (taken, rest)) :
    total rest + taken.length = total ranges := by
  induction ranges generalizing rest with
  | nil => simp [takeFrom?] at h
  | cons r ranges ih =>
    simp only [takeFrom?] at h
    split at h
    · next fits =>
      obtain ⟨rfl, rfl⟩ := by simpa using h
      simp only [total]
      omega
    · obtain ⟨⟨t, more⟩, found, eq⟩ := Option.map_eq_some_iff.1 h
      obtain ⟨rfl, rfl⟩ := by simpa using eq
      have := ih found
      simp only [total] at this ⊢
      omega

theorem total_giveTo (given : AddressRange) (ranges : List AddressRange) :
    total (giveTo given ranges) = given.length + total ranges := by
  fun_induction giveTo given ranges <;> simp_all [total] <;> omega

end AddressSpace
end SdBridge
