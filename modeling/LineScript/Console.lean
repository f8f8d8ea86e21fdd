import LineScript.Fault

/-!
The console: bytes to be read and bytes that were written.

Main statement: reading takes a prefix of the unread bytes and leaves the rest (`readLine_append`,
`read_append`).
-/

namespace LineScript

/-! ## Reading -/

/-- Bytes, and the place of the next one to be read; it may lie behind the end. -/
structure Cursor where
  buffer : List UInt8
  position : Nat

/-- Bytes that nothing was read of. -/
instance : Coe (List UInt8) Cursor :=
  ⟨fun bytes => ⟨bytes, 0⟩⟩

structure ByteReader where
  cursor : Cursor

namespace ByteReader

/-- The bytes that are left to be read. -/
def unread (reader : ByteReader) : List UInt8 :=
  reader.cursor.buffer.drop reader.cursor.position

/-- Skips `count` bytes, whether or not there are so many. -/
def consume (reader : ByteReader) (count : Nat) : ByteReader :=
  ⟨{ reader.cursor with position := reader.cursor.position + count }⟩

/-- Takes up to `count` bytes. -/
def read (reader : ByteReader) (count : Nat) : List UInt8 × ByteReader :=
  let bytes := reader.unread.take count
  (bytes, reader.consume bytes.length)

/-- The bytes up to the first line feed and with it; without a line feed, all bytes. -/
def lineBytes : List UInt8 → List UInt8
  | [] => []
  | b :: rest => if b = 0x0A then [b] else b :: lineBytes rest

/-- Takes a line with its line feed. -/
def readLine (reader : ByteReader) : List UInt8 × ByteReader :=
  let line := lineBytes reader.unread
  (line, reader.consume line.length)

theorem consume_consume (reader : ByteReader) (count more : Nat) :
    (reader.consume count).consume more = reader.consume (count + more) := by
  simp [consume, Nat.add_assoc]

@[simp] theorem unread_consume (reader : ByteReader) (count : Nat) :
    (reader.consume count).unread = reader.unread.drop count :=
  List.drop_drop.symm

theorem lineBytes_append (bytes : List UInt8) :
    lineBytes bytes ++ bytes.drop (lineBytes bytes).length = bytes := by
  induction bytes with
  | nil => rfl
  | cons b rest ih =>
    unfold lineBytes
    split
    · rfl
    · simp [ih]

theorem read_append (reader : ByteReader) (count : Nat) :
    (reader.read count).1 ++ (reader.read count).2.unread = reader.unread := by
  have hbehind : reader.unread.drop (reader.unread.take count).length = reader.unread.drop count := by
    rw [List.length_take]
    rcases Nat.le_total count reader.unread.length with h | h
    · rw [Nat.min_eq_left h]
    · rw [Nat.min_eq_right h, List.drop_length, List.drop_eq_nil_of_le h]
  rw [read, unread_consume, hbehind, List.take_append_drop]

theorem readLine_append (reader : ByteReader) :
    reader.readLine.1 ++ reader.readLine.2.unread = reader.unread := by
  simp [readLine, lineBytes_append]

end ByteReader

/-- The text that the bytes encode in UTF-8. -/
def decodeText? (bytes : List UInt8) : Option String :=
  String.fromUTF8? ⟨bytes.toArray⟩

/-! ## Writing -/

/-- Bytes that were written, in order. -/
structure ByteWriter where
  written : ByteArray

namespace ByteWriter

def empty : ByteWriter := ⟨ByteArray.empty⟩

/-- Writes the bytes behind what was written before. -/
def write (writer : ByteWriter) (bytes : ByteArray) : ByteWriter :=
  ⟨writer.written ++ bytes⟩

theorem write_nothing (writer : ByteWriter) : writer.write "".toUTF8 = writer :=
  congrArg ByteWriter.mk ByteArray.append_empty

end ByteWriter

/-! ## The console -/

/-- The streams of a run. -/
structure Console where
  input : ByteReader
  output : ByteWriter
  /-- What child processes write to the stream for errors. -/
  errors : ByteWriter
  /-- Why writing fails; nothing is written then. -/
  writeFailure : Option String
  /-- Why flushing fails. -/
  flushFailure : Option String
  /-- Do child processes write to this console? -/
  shared : Bool

namespace Console

def ofInput (bytes : List UInt8) : Console where
  input := ⟨bytes⟩
  output := .empty
  errors := .empty
  writeFailure := none
  flushFailure := none
  shared := false

/-- Writes a text.  Writing nothing never fails. -/
def write (console : Console) (text : String) : Except StreamFault Console :=
  if text.isEmpty then .ok console
  else
    match console.writeFailure with
    | some reason => .error (.refused reason)
    | none => .ok { console with output := console.output.write text.toUTF8 }

def flush (console : Console) : Except StreamFault Console :=
  match console.flushFailure with
  | some reason => .error (.refused reason)
  | none => .ok console

/-- The line without its line feed and without a carriage return in front of it; a line that the
end of the input cuts short is left as it is. -/
def withoutLineEnd (line : List Char) : List Char :=
  match line.reverse with
  | '\n' :: '\r' :: rest => rest.reverse
  | '\n' :: rest => rest.reverse
  | _ => line

/-- Takes a line as text.  A line that is no text is taken all the same. -/
def readLine (console : Console) : Except StreamFault String × Console :=
  let (line, reader) := console.input.readLine
  let result := match line with
    | [] => .error .endOfInput
    | _ =>
      match decodeText? line with
      | none => .error .invalidEncoding
      | some text => .ok (String.ofList (withoutLineEnd text.toList))
  (result, { console with input := reader })

end Console

end LineScript
