import SdBridge.Proofs.Bridge.Notice
import SdBridge.Proofs.Event.Publication
import SdBridge.Proofs.Program.Account
import SdBridge.Proofs.Register.File

/-!
Passes with a transcript of their accesses. Where the registers are there and the ring has numbers
left, writes and notices go through, and each leaves its accesses in the transcript.
-/
namespace SdBridge

def RegisterFile.writeAll (f : RegisterFile) (writes : List RegisterWrite) : RegisterFile :=
  writes.foldl (fun f w => (f.write w.offset w.value).2) f

def RegisterWrite.Inside (f : RegisterFile) (w : RegisterWrite) : Prop :=
  w.offset % 4 = 0 ∧ w.offset / 4 < f.words.size

namespace RegisterFile

theorem writeAll_append (f : RegisterFile) (first second : List RegisterWrite) :
    f.writeAll (first ++ second) = (f.writeAll first).writeAll second :=
  List.foldl_append

theorem clearOnOne_writeAll (f : RegisterFile) (writes : List RegisterWrite) :
    (f.writeAll writes).clearOnOne = f.clearOnOne := by
  induction writes generalizing f with
  | nil => rfl
  | cons w rest ih => exact (ih _).trans (clearOnOne_write ..)

theorem log_write {f : RegisterFile} {offset : Nat} (aligned : offset % 4 = 0) (value : UInt32) :
    (f.write offset value).2.log = f.log.push ⟨offset, value⟩ := by
  simp only [write, if_pos aligned]
  split <;> rfl

theorem log_writeAll {f : RegisterFile} {writes : List RegisterWrite}
    (aligned : ∀ w ∈ writes, w.offset % 4 = 0) :
    (f.writeAll writes).log.toList = f.log.toList ++ writes := by
  induction writes generalizing f with
  | nil => exact (List.append_nil _).symm
  | cons w rest ih =>
    have first := log_write (f := f) (aligned w List.mem_cons_self) w.value
    have later := ih (f := (f.write w.offset w.value).2) fun v listed =>
      aligned v (List.mem_cons_of_mem _ listed)
    rw [writeAll, List.foldl_cons, ← writeAll, later, first, Array.toList_push, List.append_assoc]
    rfl

/-- Writes to other registers do not show. -/
theorem word_writeAll {f : RegisterFile} {writes : List RegisterWrite} {offset : Nat}
    (apart : ∀ w ∈ writes, offset / 4 ≠ w.offset / 4) :
    (f.writeAll writes).word offset = f.word offset := by
  induction writes generalizing f with
  | nil => rfl
  | cons w rest ih =>
    refine (ih fun v listed => apart v (List.mem_cons_of_mem _ listed)).trans ?_
    rw [word_write, if_neg fun hit => apart w List.mem_cons_self hit.2.2]

end RegisterFile

namespace Bridge

namespace Access

def read? : Access → Option Nat
  | .readRegister offset => some offset
  | _ => none

def write? : Access → Option RegisterWrite
  | .writeRegister offset value => some ⟨offset, value⟩
  | _ => none

def request? : Access → Option Request
  | .dispatch request _ => some request
  | _ => none

def event? : Access → Option Event.Record
  | .publish record => some record
  | _ => none

def isCall : Access → Bool
  | .setInFlight _ | .dispatch _ _ => true
  | _ => false

end Access

/-- What a transcript has of the accesses that others can see. -/
structure Gist where
  reads : List Nat
  requests : List Request
  calls : List Access
  writes : List RegisterWrite
  events : List Event.Record

namespace Gist

def of (accesses : List Access) : Gist where
  reads := accesses.filterMap Access.read?
  requests := accesses.filterMap Access.request?
  calls := accesses.filter Access.isCall
  writes := accesses.filterMap Access.write?
  events := accesses.filterMap Access.event?

def append (g h : Gist) : Gist :=
  ⟨g.reads ++ h.reads, g.requests ++ h.requests, g.calls ++ h.calls, g.writes ++ h.writes,
    g.events ++ h.events⟩

theorem of_append (first second : List Access) :
    of (first ++ second) = (of first).append (of second) := by
  simp only [of, append, List.filterMap_append, List.filter_append]

end Gist

def writing (writes : List RegisterWrite) : List Access :=
  writes.map fun w => .writeRegister w.offset w.value

/-- The accesses that publish records under times that were read before. -/
def publishing (records : List Event.Record) : List Access := records.map .publish

/-- The accesses that publish records, each under the time that is read right before. -/
def telling (records : List Event.Record) : List Access :=
  records.flatMap fun record => [.clock, .publish record]

namespace Gist

theorem of_writing (writes : List RegisterWrite) :
    of (writing writes) = ⟨[], [], [], writes, []⟩ := by
  induction writes with
  | nil => rfl
  | cons w rest ih =>
    change append ⟨[], [], [], [w], []⟩ (of (writing rest)) = _
    rw [ih]
    rfl

theorem of_publishing (records : List Event.Record) :
    of (publishing records) = ⟨[], [], [], [], records⟩ := by
  induction records with
  | nil => rfl
  | cons record rest ih =>
    change append ⟨[], [], [], [], [record]⟩ (of (publishing rest)) = _
    rw [ih]
    rfl

theorem of_telling (records : List Event.Record) :
    of (telling records) = ⟨[], [], [], [], records⟩ := by
  induction records with
  | nil => rfl
  | cons record rest ih =>
    change append ⟨[], [], [], [], [record]⟩ (of (telling rest)) = _
    rw [ih]
    rfl

end Gist

variable {π : Type} [Responder π] [ByteSource π] {b : Bridge π} {k : List Access}

theorem telling_publishing (records : List Event.Record) :
    ∀ access ∈ publishing records, Telling access := by
  intro access listed
  obtain ⟨record, -, rfl⟩ := List.mem_map.1 listed
  trivial

theorem telling_telling (records : List Event.Record) :
    ∀ access ∈ telling records, Telling access := by
  intro access listed
  obtain ⟨record, -, here⟩ := List.mem_flatMap.1 listed
  rcases List.mem_cons.1 here with rfl | last
  · trivial
  · rw [List.mem_singleton.1 last]
    trivial

def transcribe (access : Access) (_ : Access.Answer access) (k : List Access) : List Access :=
  k ++ [access]

def transcribed : Handler Access.Answer (Bridge π × List Access) := Program.noting perform transcribe

theorem transcribed_eq_ok {access : Access} {answer : Access.Answer access} {b' : Bridge π}
    (performed : perform access b = (.ok answer, b')) (k : List Access) :
    transcribed access (b, k) = (.ok answer, b', k ++ [access]) :=
  Program.noting_eq_ok performed transcribe k

section Call

variable {α : Type} {access : Access} {b' : Bridge π} (next : Access.Answer access → Loop α)
  (k : List Access)

theorem run_call {answer : Access.Answer access} (performed : perform access b = (.ok answer, b')) :
    (Program.call access next).run transcribed (b, k) =
      (next answer).run transcribed (b', k ++ [access]) := by
  rw [Program.run, transcribed_eq_ok performed k]

/-- An access that faults is not in the transcript. -/
theorem run_call_fault {fault : Fault} (performed : perform access b = (.error fault, b')) :
    (Program.call access next).run transcribed (b, k) = (.error fault, b', k) := by
  have noted : transcribed access (b, k) = (.error fault, b', k) :=
    Program.noting_eq_error performed transcribe k
  rw [Program.run, noted]

end Call

theorem perform_readRegister_inside {offset : Nat} (aligned : offset % 4 = 0)
    (inside : offset / 4 < b.registers.words.size) :
    perform (.readRegister offset) b = (.ok (b.registers.word offset),
      { b with registers := { b.registers with reads := b.registers.reads + 1 } }) := by
  rw [perform, RegisterFile.read_of_inside aligned inside]
  rfl

theorem perform_writeRegister {w : RegisterWrite} (inside : w.Inside b.registers) :
    perform (.writeRegister w.offset w.value) b = (.ok (),
      { b with registers := (b.registers.write w.offset w.value).2 }) := by
  have answered := RegisterFile.write_of_inside inside.1 inside.2 w.value
  rw [perform, onRegisters, answered]

theorem perform_publish (room : b.ring.head.toNat + 1 < 2 ^ 64) (record : Event.Record) :
    ∃ ring, perform (.publish record) b = (.ok (), { b with ring }) ∧
      ring.head.toNat = b.ring.head.toNat + 1 := by
  refine ⟨_, by rw [perform, Event.Ring.publish_eq_ok room], ?_⟩
  rw [UInt64.toNat_add, UInt64.toNat_one, Nat.mod_eq_of_lt room]

theorem ends_writeAll {writes : List RegisterWrite}
    (inside : ∀ w ∈ writes, w.Inside b.registers) :
    Program.Ends transcribed (Loop.writeAll writes) (b, k) fun _ s =>
      s = ({ b with registers := b.registers.writeAll writes },
        k ++ writing writes) := by
  induction writes generalizing b k with
  | nil => exact Program.ends_pure (by rw [writing, List.map_nil, List.append_nil]; rfl)
  | cons w rest ih =>
    have performed := transcribed_eq_ok (perform_writeRegister (inside w List.mem_cons_self)) k
    refine Program.ends_access_bind performed ?_
    have still : ∀ v ∈ rest, v.Inside (b.registers.write w.offset w.value).2 := by
      intro v listed
      have here := inside v (List.mem_cons_of_mem _ listed)
      exact ⟨here.1, by rw [RegisterFile.write_size]; exact here.2⟩
    refine Program.ends_mono (ih still) ?_
    rintro - s rfl
    rw [List.append_assoc]
    rfl

/-- The records of notices that are told one after the other, given what the clock is going to
read. -/
def stamped : List UInt64 → List Notice → List Event.Record
  | _, [] => []
  | clock, n :: rest => n.record (clock.headD 0) :: stamped clock.tail rest

/-- A bridge after something was told: only the ring and the clock are others. -/
def Told (b b' : Bridge π) : Prop := ∃ ring clock, b' = { b with ring, clock }

theorem ends_tellAll {notices : List Notice}
    (room : b.ring.head.toNat + notices.length < 2 ^ 64) :
    Program.Ends transcribed (Loop.tellAll notices) (b, k) fun _ s =>
      Told b s.1 ∧ s.2 = k ++ telling (stamped b.clock notices) := by
  induction notices generalizing b k with
  | nil =>
    refine Program.ends_pure ⟨⟨b.ring, b.clock, rfl⟩, ?_⟩
    rw [stamped, telling, List.flatMap_nil, List.append_nil]
  | cons n rest ih =>
    rw [List.length_cons] at room
    have read : transcribed .clock (b, k) = (.ok (b.clock.headD 0), { b with clock := b.clock.tail },
        k ++ [.clock]) := transcribed_eq_ok rfl k
    obtain ⟨ring, published, head⟩ := perform_publish (b := { b with clock := b.clock.tail })
      (by simp only; omega) (n.record (b.clock.headD 0))
    have told := transcribed_eq_ok published (k ++ [.clock])
    rw [Loop.tellAll, Loop.publish, bind_assoc]
    refine Program.ends_access_bind read (Program.ends_access_bind told ?_)
    refine Program.ends_mono (ih (by simp only [head]; omega)) ?_
    rintro - ⟨b', k'⟩ ⟨⟨ring', clock, same⟩, transcript⟩
    refine ⟨⟨ring', clock, same⟩, ?_⟩
    rw [transcript, stamped, List.append_assoc, List.append_assoc]
    rfl

/-- The first notice of a command, if there is one, under the time when the command was seen. -/
theorem ends_tellArrival {done : Exchange} {seen : UInt64}
    (room : b.ring.head.toNat + 1 < 2 ^ 64) :
    Program.Ends transcribed (done.tellArrival seen) (b, k) fun _ s =>
      (∃ ring, s.1 = { b with ring } ∧
        ring.head.toNat = b.ring.head.toNat + done.arrival.toList.length) ∧
      s.2 = k ++ publishing (done.arrival.toList.map (·.record seen)) := by
  cases done with
  | answered command length =>
    obtain ⟨ring, published, head⟩ := perform_publish room
      (Notice.record ⟨.commandReceived, "New command", command.toUInt64⟩ seen)
    exact Program.ends_access (transcribed_eq_ok published k) ⟨⟨ring, rfl, head⟩, rfl⟩
  | rejected command why =>
    exact Program.ends_pure ⟨⟨b.ring, rfl, rfl⟩, (List.append_nil k).symm⟩

end Bridge
end SdBridge
