import LogTail.Proofs.JsonRecords
import LogTail.Proofs.TextCodes
import LogTail.WatchState
import Mathlib

/-!
# Written states

The state of a watch has a written form exactly if all paths of its files are texts, and is read from it as it
was, but for what a file is a copy of.

* `InRange` says that the numbers of a state are words, or signed words, and that hashes have 32 bytes.
* `WatchState.written`: the written form of a state is read as the state. It says nothing about copies.
* `WatchState.toJson?_isSome_iff`: there is one exactly if all paths are texts.
* `WatchState.keeps_ofJson?`: what is read from a written form is read from what a document makes of it.
-/

namespace LogTail

open Json (Keeps Written)

/-! ## Identities -/

/-- The numbers of an identity are words. -/
structure FileId.InRange (id : FileId) : Prop where
  device : id.device ≤ Json.wordMax
  inode : id.inode ≤ Json.wordMax
  inodeHigh : id.inodeHigh ≤ Json.wordMax

instance (id : FileId) : Decidable id.InRange :=
  decidable_of_iff (id.device ≤ Json.wordMax ∧ id.inode ≤ Json.wordMax ∧ id.inodeHigh ≤ Json.wordMax)
    ⟨fun h => ⟨h.1, h.2.1, h.2.2⟩, fun h => ⟨h.device, h.inode, h.inodeHigh⟩⟩

theorem FileId.keeps_ofJson? : Keeps FileId.ofJson? :=
  .record <| .required? (by decide) Json.keeps_toWord? fun _ =>
    .required? (by decide) Json.keeps_toWord? fun _ =>
    .optional? (by decide) Json.keeps_toWord? fun _ => .const _

theorem FileId.written {id : FileId} (h : id.InRange) : Written FileId.ofJson? 1 id id.toJson := by
  have hdevice := Written.word h.device
  have hinode := Written.word h.inode
  have hhigh := Written.word h.inodeHigh
  by_cases hzero : id.inodeHigh = 0
  · rw [FileId.toJson, if_pos hzero]
    refine .record (by simp) (by simp) ?_ ?_
    · simp only [List.append_nil, List.forall_mem_cons]
      exact ⟨hdevice.part le_rfl, hinode.part le_rfl, List.forall_mem_nil _⟩
    · have hown : (⟨id.device, id.inode, 0⟩ : FileId) = id := congrArg (FileId.mk id.device id.inode) hzero.symm
      simp [Json.Fields.required?, Json.Fields.optional?, Json.Fields.find?, hdevice.reads, hinode.reads, hown]
  · rw [FileId.toJson, if_neg hzero]
    refine .record (by simp) (by simp) ?_ ?_
    · simp only [List.cons_append, List.nil_append, List.forall_mem_cons]
      exact ⟨hdevice.part le_rfl, hinode.part le_rfl, hhigh.part le_rfl, List.forall_mem_nil _⟩
    · simp [Json.Fields.required?, Json.Fields.optional?, Json.Fields.find?, hdevice.reads, hinode.reads,
        hhigh.reads]

/-! ## Digests -/

/-- The length is a word, and the hash has its length. -/
structure Digest.InRange (d : Digest) : Prop where
  length : d.length ≤ Json.wordMax
  sum : d.sum.length = 32

instance (d : Digest) : Decidable d.InRange :=
  decidable_of_iff (d.length ≤ Json.wordMax ∧ d.sum.length = 32) ⟨fun h => ⟨h.1, h.2⟩, fun h => ⟨h.length, h.sum⟩⟩

theorem Digest.keeps_bytesOfJson? : Keeps Digest.bytesOfJson? := Json.keeps_toText?.bind _

theorem Digest.keeps_ofJson? : Keeps Digest.ofJson? :=
  .record <| .required? (by decide) Json.keeps_toWord? fun _ =>
    .required? (by decide) Digest.keeps_bytesOfJson? fun _ => .const _

theorem Digest.written_bytes (bs : Bytes) :
    Written Digest.bytesOfJson? 0 bs (.string (Text.Base64.encode bs)) :=
  ⟨.string _, le_rfl, Text.Base64.decode?_encode bs⟩

theorem Digest.written {d : Digest} (h : d.InRange) : Written Digest.ofJson? 1 d d.toJson := by
  have hlength := Written.word h.length
  have hsum := Digest.written_bytes d.sum
  refine .record (by simp) (by simp) ?_ ?_
  · simp only [List.forall_mem_cons]
    exact ⟨hlength.part le_rfl, hsum.part le_rfl, List.forall_mem_nil _⟩
  · simp [Json.Fields.required?, Json.Fields.find?, hlength.reads, hsum.reads, h.sum]

/-! ## Files -/

theorem Path.toText?_eq_some_iff {p : Path} {text : String} : p.toText? = some text ↔ p = .ofText text := by
  rw [Path.toText?, Text.Utf8.decode?_eq_some_iff, Path.ofText, eq_comm]
  exact ⟨congrArg Path.mk, congrArg Path.bytes⟩

/-- The numbers of a file are words, but its time is a signed one. -/
structure LogFile.InRange (f : LogFile) : Prop where
  mtimeLow : -Json.signedMax - 1 ≤ f.mtime
  mtimeHigh : f.mtime ≤ Json.signedMax
  id : f.id.InRange
  size : f.size ≤ Json.wordMax
  processed : f.processed ≤ Json.wordMax
  digest : f.digest.InRange
  seq : f.seq ≤ Json.wordMax
  retry : f.retry ≤ LogFile.retryMax

instance (f : LogFile) : Decidable f.InRange :=
  decidable_of_iff (-Json.signedMax - 1 ≤ f.mtime ∧ f.mtime ≤ Json.signedMax ∧ f.id.InRange ∧ f.size ≤ Json.wordMax ∧
      f.processed ≤ Json.wordMax ∧ f.digest.InRange ∧ f.seq ≤ Json.wordMax ∧ f.retry ≤ LogFile.retryMax)
    ⟨fun ⟨h₁, h₂, h₃, h₄, h₅, h₆, h₇, h₈⟩ => ⟨h₁, h₂, h₃, h₄, h₅, h₆, h₇, h₈⟩,
      fun ⟨h₁, h₂, h₃, h₄, h₅, h₆, h₇, h₈⟩ => ⟨h₁, h₂, h₃, h₄, h₅, h₆, h₇, h₈⟩⟩

def LogFile.withoutCopy (f : LogFile) : LogFile := { f with copyOf := none }

theorem LogFile.keeps_ofJson? : Keeps LogFile.ofJson? :=
  .record <| .required? (by decide) Json.keeps_toText? fun _ =>
    .required? (by decide) Json.keeps_toSigned? fun _ =>
    .required? (by decide) FileId.keeps_ofJson? fun _ =>
    .required? (by decide) Json.keeps_toWord? fun _ =>
    .required? (by decide) Json.keeps_toWord? fun _ =>
    .required? (by decide) Digest.keeps_ofJson? fun _ =>
    .required? (by decide) Json.keeps_toWord? fun _ =>
    .optional? (by decide) (Json.keeps_toNatUpTo? (by decide)) fun _ =>
    .optional? (by decide) Json.keeps_toBool? fun _ =>
    .optional? (by decide) Digest.keeps_bytesOfJson? fun _ =>
    .optional? (by decide) Json.keeps_toBool? fun _ => .const _

theorem LogFile.written {f : LogFile} (h : f.InRange) {j : Json} (hj : f.toJson? = some j) :
    Written LogFile.ofJson? 2 f.withoutCopy j := by
  obtain ⟨path, hpath, rfl⟩ := Option.map_eq_some_iff.1 hj
  have hmtime := Written.signed h.mtimeLow h.mtimeHigh
  have hid := FileId.written h.id
  have hsize := Written.word h.size
  have hprocessed := Written.word h.processed
  have hdigest := Digest.written h.digest
  have hseq := Written.word h.seq
  have hretry := Written.ofNat (by decide) h.retry
  have htail := Digest.written_bytes f.tail
  have hown : Path.ofText path = f.path := (Path.toText?_eq_some_iff.1 hpath).symm
  refine .record (by simp) (by simp [LogFile.fieldNames]) ?_ ?_
  · simp only [List.forall_mem_cons]
    exact ⟨(Written.string path).part (by decide), hmtime.part (by decide), hid.part le_rfl,
      hsize.part (by decide), hprocessed.part (by decide), hdigest.part le_rfl, hseq.part (by decide),
      hretry.part (by decide), (Written.bool _).part (by decide), htail.part (by decide),
      (Written.bool _).part (by decide), List.forall_mem_nil _⟩
  · simp [Json.Fields.required?, Json.Fields.optional?, Json.Fields.find?, (Written.string path).reads,
      hmtime.reads, hid.reads, hsize.reads, hprocessed.reads, hdigest.reads, hseq.reads, hretry.reads,
      htail.reads, (Written.bool _).reads, hown, LogFile.withoutCopy]

/-! ## States -/

/-- The numbers of a state are words, but its times are signed ones. -/
structure WatchState.InRange (s : WatchState) : Prop where
  lastSize : s.lastSize ≤ Json.wordMax
  lastMtimeLow : -Json.signedMax - 1 ≤ s.lastMtime
  lastMtimeHigh : s.lastMtime ≤ Json.signedMax
  lastSizeSent : s.lastSizeSent ≤ Json.wordMax
  lastMtimeSentLow : -Json.signedMax - 1 ≤ s.lastMtimeSent
  lastMtimeSentHigh : s.lastMtimeSent ≤ Json.signedMax
  files : ∀ f ∈ s.files, f.InRange
  processedBytes : s.processedBytes ≤ Json.wordMax

instance (s : WatchState) : Decidable s.InRange :=
  decidable_of_iff (s.lastSize ≤ Json.wordMax ∧ -Json.signedMax - 1 ≤ s.lastMtime ∧ s.lastMtime ≤ Json.signedMax ∧
      s.lastSizeSent ≤ Json.wordMax ∧ -Json.signedMax - 1 ≤ s.lastMtimeSent ∧ s.lastMtimeSent ≤ Json.signedMax ∧
      (∀ f ∈ s.files, f.InRange) ∧ s.processedBytes ≤ Json.wordMax)
    ⟨fun ⟨h₁, h₂, h₃, h₄, h₅, h₆, h₇, h₈⟩ => ⟨h₁, h₂, h₃, h₄, h₅, h₆, h₇, h₈⟩,
      fun ⟨h₁, h₂, h₃, h₄, h₅, h₆, h₇, h₈⟩ => ⟨h₁, h₂, h₃, h₄, h₅, h₆, h₇, h₈⟩⟩

def WatchState.withoutCopies (s : WatchState) : WatchState := { s with files := s.files.map LogFile.withoutCopy }

namespace WatchState

theorem toJson?_isSome_iff {s : WatchState} :
    (∃ j, s.toJson? = some j) ↔ ∀ f ∈ s.files, ∃ text, f.path = .ofText text := by
  have hfile (f : LogFile) : (∃ j, f.toJson? = some j) ↔ ∃ text, f.path = .ofText text := by
    simp only [LogFile.toJson?, Option.map_eq_some_iff, Path.toText?_eq_some_iff]
    constructor
    · rintro ⟨_, text, htext, -⟩
      exact ⟨text, htext⟩
    · rintro ⟨text, htext⟩
      exact ⟨_, text, htext, rfl⟩
  simp only [← hfile]
  constructor
  · rintro ⟨_, hj⟩ f hf
    obtain ⟨items, hitems, -⟩ := Option.map_eq_some_iff.1 hj
    obtain ⟨j, -, hj⟩ := Json.exists_mem_of_forall₂ (mapM_eq_some_iff.1 hitems).flip hf
    exact ⟨j, hj⟩
  · intro h
    obtain ⟨items, hitems⟩ := Json.exists_forall₂ h
    exact ⟨_, Option.map_eq_some_iff.2 ⟨items, mapM_eq_some_iff.2 hitems, rfl⟩⟩

theorem keeps_ofJson? : Keeps ofJson? :=
  .record <| .required? (by decide) Json.keeps_toWord? fun _ =>
    .required? (by decide) Json.keeps_toSigned? fun _ =>
    .required? (by decide) Json.keeps_toWord? fun _ =>
    .required? (by decide) Json.keeps_toSigned? fun _ =>
    .required? (by decide) Json.keeps_toBool? fun _ =>
    .required? (by decide) Json.keeps_toBool? fun _ =>
    .list (by decide) LogFile.keeps_ofJson? fun _ =>
    .required? (by decide) Json.keeps_toWord? fun _ => .const _

theorem written {s : WatchState} (h : s.InRange) {j : Json} (hj : s.toJson? = some j) :
    Written ofJson? 4 s.withoutCopies j := by
  obtain ⟨items, hitems, rfl⟩ := Option.map_eq_some_iff.1 hj
  have hlastSize := Written.word h.lastSize
  have hlastMtime := Written.signed h.lastMtimeLow h.lastMtimeHigh
  have hlastSizeSent := Written.word h.lastSizeSent
  have hlastMtimeSent := Written.signed h.lastMtimeSentLow h.lastMtimeSentHigh
  have hprocessedBytes := Written.word h.processedBytes
  have hfiles : Written (fun j => j.toArray?.bind fun items => items.mapM LogFile.ofJson?) 3
      (s.files.map LogFile.withoutCopy) (.array items) := by
    have hrange := (List.forall₂_and_left _ _).2 ⟨h.files, mapM_eq_some_iff.1 hitems⟩
    exact .list (List.forall₂_map_right_iff.2 (hrange.flip.imp fun _ _ hf => LogFile.written hf.1 hf.2))
  refine .record (by simp) (by simp [fieldNames]) ?_ ?_
  · simp only [List.forall_mem_cons]
    exact ⟨hlastSize.part (by decide), hlastMtime.part (by decide), hlastSizeSent.part (by decide),
      hlastMtimeSent.part (by decide), (Written.bool _).part (by decide), (Written.bool _).part (by decide),
      hfiles.part le_rfl, hprocessedBytes.part (by decide), List.forall_mem_nil _⟩
  · have hread : items.mapM LogFile.ofJson? = some (s.files.map LogFile.withoutCopy) := hfiles.reads
    simp [Json.Fields.required?, Json.Fields.find?, hlastSize.reads, hlastMtime.reads, hlastSizeSent.reads,
      hlastMtimeSent.reads, (Written.bool _).reads, Json.toArray?, hread, hprocessedBytes.reads, withoutCopies]

end WatchState

end LogTail
