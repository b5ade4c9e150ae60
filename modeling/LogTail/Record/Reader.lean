import LogTail.Encoding
import LogTail.LogFile
import LogTail.World

/-!
# Reading records

A reader holds a window on a file: the bytes from `start` on that belong to no event yet, up to
`position`, where reading goes on. An event is taken from the window as soon as it holds one; otherwise
more bytes are read, never past the limit, and never more than one longest record is held.

* `Reader.take?` is the pure part: the event at the front of the window.
* A record longer than the limit is cut, and its rest is skipped up to the next terminator.
* The fuel of `next` and of `readFull` is the number of bytes they may still read.
-/

namespace LogTail

/-- How a file is cut into records. -/
structure ReaderOptions where
  encoding : Encoding
  chunkSize : Nat
  maxRecordSize : Nat
  /-- Refuse a file that is not the one that was tracked. -/
  verifyIdentity : Bool

inductive ReadEvent where
  /-- A record without its terminator, where it begins, and where the next one does. -/
  | record (start stop : Nat) (bytes : Bytes) (truncated : Bool)
  /-- Bytes of a record that was too long were dropped; `finished` if its end was among them. -/
  | skipped (stop : Nat) (finished : Bool)
  deriving DecidableEq

def ReadEvent.stop : ReadEvent → Nat
  | record _ stop _ _ => stop
  | skipped stop _ => stop

/-- An open file with a window on it. -/
structure Reader where
  options : ReaderOptions
  number : Nat
  window : Bytes
  /-- Where the window begins. -/
  start : Nat
  /-- Where reading goes on. -/
  position : Nat
  /-- Where reading stops. -/
  limit : Nat
  skipping : Bool

namespace Reader

/-- A reader on an open file that goes on where a tracked file was left; its tail begins the first
record. -/
def ofFile (options : ReaderOptions) (file : LogFile) (number : Nat) : Reader :=
  ⟨options, number, file.tail, file.tailStart, file.processed, file.size, file.skipping⟩

def openFile (options : ReaderOptions) (file : LogFile) (w : World) : Except Cause Reader × World :=
  match w.look fun d => d.numberOf file.path with
  | (.error c, w) => (.error c, w)
  | (.ok number, w) =>
    if options.verifyIdentity && FileId.ofNumber number ≠ file.id then (.error .otherFile, w)
    else (.ok (ofFile options file number), w)

def drop (r : Reader) (n : Nat) : Reader := { r with window := r.window.drop n, start := r.start + n }

/-- The bytes of a record at the front of the window; at the start of a file a byte order mark is no
part of it. -/
def content (r : Reader) (length : Nat) : Bytes :=
  let bytes := r.window.take length
  if r.start = 0 then r.options.encoding.stripBom bytes else bytes

def emit (r : Reader) (contentEnd recordEnd : Nat) (truncated : Bool) : ReadEvent × Reader :=
  (.record r.start (r.start + recordEnd) (r.content contentEnd) truncated, r.drop recordEnd)

/-- The event at the front of the window, if it holds one, and the reader after it. -/
def take? (r : Reader) : Option (ReadEvent × Reader) :=
  let encoding := r.options.encoding
  match encoding.terminator? r.window with
  | some (contentEnd, recordEnd) =>
    if r.skipping then
      some (.skipped (r.start + recordEnd) true, { r.drop recordEnd with skipping := false })
    else some (r.emit contentEnd recordEnd false)
  | none =>
    if r.skipping then
      let discard := encoding.alignDown r.window.length
      if 0 < discard then some (.skipped (r.start + discard) false, r.drop discard) else none
    else if r.options.maxRecordSize ≤ r.window.length then
      let cut := encoding.alignDown r.options.maxRecordSize
      some ({ r with skipping := true }.emit cut cut true)
    else none

/-- The record of what is left in the window, for a file to which nothing will be added. -/
def takeRemainder (r : Reader) : Option ReadEvent × Reader :=
  if r.window.isEmpty || r.skipping then (none, r)
  else
    let (event, r) := r.emit r.window.length r.window.length false
    (some event, r)

def wanted (r : Reader) : Nat :=
  let room := if r.skipping then r.options.chunkSize else r.options.maxRecordSize - r.window.length
  min (min (r.limit - r.position) r.options.chunkSize) room

/-- Reads a number of bytes from an offset of a file on, in as many calls as it takes; fewer if the file
ends before. -/
def readFull (number : Nat) : Nat → World → Nat → Nat → Except Cause Bytes × World
  | 0, w, _, _ => (.ok [], w)
  | fuel + 1, w, offset, count =>
    if count = 0 then (.ok [], w)
    else
      match w.look fun d => d.readAt number offset count with
      | (.error c, w) => (.error c, w)
      | (.ok bytes, w) =>
        if bytes.isEmpty then (.ok [], w)
        else
          match readFull number fuel w (offset + bytes.length) (count - bytes.length) with
          | (.error c, w) => (.error c, w)
          | (.ok more, w) => (.ok (bytes ++ more), w)

/-- The reader with more bytes in its window; if they are fewer than were wanted, the file ends here. -/
def extend (r : Reader) (wanted : Nat) (bytes : Bytes) : Reader :=
  let position := r.position + bytes.length
  { r with
    window := r.window ++ bytes
    position := position
    limit := if bytes.length < wanted then position else r.limit }

def fill (r : Reader) (w : World) : Except Cause (Reader × Bool) × World :=
  if r.limit ≤ r.position then (.ok (r, false), w)
  else
    match readFull r.number r.wanted w r.position r.wanted with
    | (.error c, w) => (.error c, w)
    | (.ok bytes, w) => (.ok (r.extend r.wanted bytes, !bytes.isEmpty), w)

/-- The next event, with a number of bytes that may still be read. -/
def nextFrom : Nat → Reader → World → Except Cause (Option ReadEvent) × Reader × World
  | 0, r, w => (.ok none, r, w)
  | fuel + 1, r, w =>
    match r.take? with
    | some (event, r) => (.ok (some event), r, w)
    | none =>
      match r.fill w with
      | (.error c, w) => (.error c, r, w)
      | (.ok (r, false), w) => (.ok none, r, w)
      | (.ok (r, true), w) => nextFrom fuel r w

/-- The next event, or none once all up to the limit was read. -/
def next (r : Reader) (w : World) : Except Cause (Option ReadEvent) × Reader × World :=
  nextFrom (r.limit - r.position + 1) r w

/-- How many events can still come: each takes bytes from the file, but for a cut record, after which
the rest is skipped. -/
def eventBound (r : Reader) : Nat := 2 * (max r.limit r.position - r.start) + 2

end Reader

end LogTail
