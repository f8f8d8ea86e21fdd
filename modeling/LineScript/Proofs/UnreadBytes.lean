import Mathlib
import LineScript.Proofs.InputLines

/-!
Calls on the reader of bytes, in any order.

A call takes bytes from the front of those that are unread (`taken`), and moves the place of the
reader in its buffer (`advance`): by what it took, but `consume` moves it by the whole count, also
behind the end of the buffer.

* One call takes a prefix of the unread bytes (`taken_append`) and changes nothing but the place
  (`snd_serve`).
* So after any calls nothing is lost and nothing is there twice (`takenBy_append`), the buffer is what
  it was (`snd_serveAll`), and at its end nothing more comes (`yieldsNothing_of_end`).

Main statement: `reader_keeps_order`.
-/

namespace LineScript

inductive ReaderCall
  /-- Take up to so many bytes. -/
  | read (count : Nat)
  /-- Take a line as text. -/
  | readLine
  /-- Show the unread bytes and take none. -/
  | fill
  /-- Skip so many bytes. -/
  | consume (count : Nat)
deriving DecidableEq

inductive ReaderAnswer
  | bytes (shown : List UInt8)
  /-- A line, if it is text. -/
  | line (text : Option String)
  | done
deriving DecidableEq

/-- No byte comes with the answer. -/
def ReaderAnswer.YieldsNothing : ReaderAnswer → Prop
  | bytes shown => shown = []
  | line text => text = some ""
  | done => True

namespace ByteReader

def serve (reader : ByteReader) : ReaderCall → ReaderAnswer × ByteReader
  | .read count =>
    let (bytes, after) := reader.read count
    (.bytes bytes, after)
  | .readLine =>
    let (line, after) := reader.readLine
    (.line (decodeText? line), after)
  | .fill => (.bytes reader.unread, reader)
  | .consume count => (.done, reader.consume count)

def serveAll (reader : ByteReader) : List ReaderCall → List ReaderAnswer × ByteReader
  | [] => ([], reader)
  | call :: calls =>
    let (answer, next) := reader.serve call
    let (answers, after) := next.serveAll calls
    (answer :: answers, after)

/-! ## One call -/

/-- The bytes that a call takes away: those that it returns, those of its line, even if they are no
text, or those that it skips. -/
def taken (reader : ByteReader) : ReaderCall → List UInt8
  | .read count => (reader.read count).1
  | .readLine => reader.readLine.1
  | .fill => []
  | .consume count => reader.unread.take count

/-- How far a call moves the place of the reader. -/
def advance (reader : ByteReader) : ReaderCall → Nat
  | .consume count => count
  | .read count => (reader.read count).1.length
  | .readLine => reader.readLine.1.length
  | .fill => 0

variable (reader : ByteReader) (call : ReaderCall)

theorem taken_append : reader.taken call ++ (reader.serve call).2.unread = reader.unread := by
  cases call with
  | read count => exact reader.read_append count
  | readLine => exact reader.readLine_append
  | fill => rfl
  | consume count =>
    show reader.unread.take count ++ (reader.consume count).unread = reader.unread
    rw [unread_consume, List.take_append_drop]

theorem snd_serve : (reader.serve call).2 = reader.consume (reader.advance call) := by
  cases call <;> rfl

/-! ## Any calls -/

/-- The bytes that calls take away, in order. -/
def takenBy (reader : ByteReader) : List ReaderCall → List UInt8
  | [] => []
  | call :: calls => reader.taken call ++ (reader.serve call).2.takenBy calls

/-- How far calls move the place of the reader. -/
def advanceBy (reader : ByteReader) : List ReaderCall → Nat
  | [] => 0
  | call :: calls => reader.advance call + (reader.serve call).2.advanceBy calls

variable {reader}

theorem snd_serveAll_cons (calls : List ReaderCall) :
    (reader.serveAll (call :: calls)).2 = ((reader.serve call).2.serveAll calls).2 :=
  rfl

theorem takenBy_append (calls : List ReaderCall) :
    reader.takenBy calls ++ (reader.serveAll calls).2.unread = reader.unread := by
  induction calls generalizing reader with
  | nil => rfl
  | cons call calls ih =>
    rw [takenBy, snd_serveAll_cons, List.append_assoc, ih]
    exact reader.taken_append call

/-- Calls move the place by what each of them moves it, and leave the buffer as it is. -/
theorem snd_serveAll (calls : List ReaderCall) :
    (reader.serveAll calls).2 = reader.consume (reader.advanceBy calls) := by
  induction calls generalizing reader with
  | nil => rfl
  | cons call calls ih =>
    rw [snd_serveAll_cons, ih, advanceBy, ← consume_consume, ← snd_serve]

/-- At the end a call answers with no byte, and the end stays the end. -/
theorem serve_of_end (h : reader.unread = []) :
    (reader.serve call).1.YieldsNothing ∧ reader.taken call = [] ∧
      (reader.serve call).2.unread = [] := by
  have hsplit := reader.taken_append call
  rw [h] at hsplit
  obtain ⟨htaken, hunread⟩ := List.append_eq_nil_iff.mp hsplit
  refine ⟨?_, htaken, hunread⟩
  cases call with
  | read count => exact htaken
  | readLine =>
    have hline : reader.readLine.1 = [] := htaken
    show decodeText? reader.readLine.1 = some ""
    rw [hline]
    rfl
  | fill => exact h
  | consume count => trivial

theorem yieldsNothing_of_end (h : reader.unread = []) (calls : List ReaderCall) :
    (∀ answer ∈ (reader.serveAll calls).1, answer.YieldsNothing) ∧ reader.takenBy calls = [] := by
  induction calls generalizing reader with
  | nil => exact ⟨by simp [serveAll], rfl⟩
  | cons call calls ih =>
    obtain ⟨hanswer, htaken, hend⟩ := serve_of_end call h
    obtain ⟨hanswers, htakenBy⟩ := ih hend
    constructor
    · exact List.forall_mem_cons.mpr ⟨hanswer, hanswers⟩
    · rw [takenBy, htaken, htakenBy]
      rfl

/-- **The reader neither loses nor repeats bytes.**  After any calls the bytes that they took, in
order, are the front of the buffer, and the rest is what stands behind the place that the calls
moved to.  `fill` shows this rest and takes nothing, `read` takes the first bytes of it, a line is
taken up to its line feed even if it is no text, and `consume` moves the place by its whole count,
also behind the end.  From the end on no call yields a byte. -/
theorem reader_keeps_order (buffer : List UInt8) (calls : List ReaderCall) :
    let start : ByteReader := ⟨⟨buffer, 0⟩⟩
    let reader := (start.serveAll calls).2
    let place := start.advanceBy calls
    let rest := buffer.drop place
    let line := (pieces 0x0A rest).headD []
    reader = ⟨⟨buffer, place⟩⟩ ∧ reader.unread = rest ∧
    start.takenBy calls ++ rest = buffer ∧
    reader.serve .fill = (.bytes rest, reader) ∧
    (∀ count, reader.serve (.read count) =
      (.bytes (rest.take count), ⟨⟨buffer, place + (rest.take count).length⟩⟩)) ∧
    reader.serve .readLine = (.line (decodeText? line), ⟨⟨buffer, place + line.length⟩⟩) ∧
    (∀ count, reader.serve (.consume count) = (.done, ⟨⟨buffer, place + count⟩⟩)) ∧
    (buffer.length ≤ place → ∀ later,
      (∀ answer ∈ (reader.serveAll later).1, answer.YieldsNothing) ∧ reader.takenBy later = []) := by
  intro start reader place rest line
  have hreader : reader = ⟨⟨buffer, place⟩⟩ := by
    show (start.serveAll calls).2 = _
    rw [snd_serveAll, consume, Nat.zero_add]
  have hunread : reader.unread = rest := by
    rw [hreader]
    rfl
  have hmoves (count : Nat) : reader.consume count = ⟨⟨buffer, place + count⟩⟩ := by
    rw [hreader]
    rfl
  refine ⟨hreader, hunread, ?_, ?_, fun count => ?_, ?_, fun count => ?_, fun hend => ?_⟩
  · have htaken : start.takenBy calls ++ reader.unread = buffer := takenBy_append calls
    rwa [hunread] at htaken
  · rw [serve, hunread]
  · rw [serve, read, hunread, hmoves]
  · have hline : lineBytes rest = line := lineBytes_eq rest
    rw [serve, readLine, hunread, hmoves, hline]
  · rw [serve, hmoves]
  · refine yieldsNothing_of_end ?_
    rw [hunread]
    exact List.drop_eq_nil_of_le hend

/-- A byte, a line that is no text, and a skip behind the end. -/
theorem reader_keeps_order_behind_the_end :
    let start : ByteReader := ⟨⟨[0x61, 0xFF, 0x0A, 0x62], 0⟩⟩
    let calls : List ReaderCall := [.read 1, .readLine, .fill, .consume 5]
    (start.serveAll calls).1 = [.bytes [0x61], .line none, .bytes [0x62], .done] ∧
    start.takenBy calls = [0x61, 0xFF, 0x0A, 0x62] ∧ start.advanceBy calls = 8 ∧
    (start.serveAll calls).2 = ⟨⟨[0x61, 0xFF, 0x0A, 0x62], 8⟩⟩ ∧
    ∀ later, (∀ answer ∈ ((start.serveAll calls).2.serveAll later).1, answer.YieldsNothing) ∧
      (start.serveAll calls).2.takenBy later = [] := by
  intro start calls
  have hplace : start.advanceBy calls = 8 := rfl
  obtain ⟨hreader, -, -, -, -, -, -, hend⟩ := reader_keeps_order [0x61, 0xFF, 0x0A, 0x62] calls
  have hbehind : [0x61, 0xFF, 0x0A, 0x62].length ≤ start.advanceBy calls := by
    rw [hplace]
    decide
  exact ⟨by decide, rfl, hplace, hreader, hend hbehind⟩

end ByteReader

end LineScript
