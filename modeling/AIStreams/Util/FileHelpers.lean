import AIStreams.Base.PpmFile
import AIStreams.Stdio.Stream

/-!
# Reading and writing files

`GetContents` and `SetContents` of `aistreams/util/file_helpers.cc`, and `ToPpmFile` over them, on
streams that may fail at any call.

* `readLoop_spec`: the loop of `GetContents` returns, and returns OK only with the whole file.
* `reportsPartial_iff`: `SetContents` and `ToPpmFile` return OK only for a whole file exactly if no
  byte is lost, or the stream that has been closed still shows an error.
-/

namespace AIStreams.FileHelpers

open Stdio

/-! ### The functions -/

/-- The loop of `GetContents`, whose `i`-th read comes to `reads i`, with fuel for its rounds. -/
def readLoop (fileName : String) (reads : ℕ → Read) :
    ℕ → ℕ → Reader UInt8 → Bytes → Option (Status × Bytes)
  | 0, _, _, _ => none
  | fuel + 1, i, fp, output =>
    if fp.eof then some (okStatus, output)
    else
      let (buf, fp) := fp.fread 4096 (reads i)
      if buf.length = 0 ∧ fp.err = true then
        some (internalError ("Error while reading file: " ++ fileName), output)
      else readLoop fileName reads fuel (i + 1) fp (output ++ buf)

/-- `GetContents`: the status, and what is in `*output`; `contents` are those of the file, if it
opens.  A round takes a byte, or is followed by the last one. -/
def getContents (fileName : String) (contents : Option Bytes) (reads : ℕ → Read)
    (output : Bytes) : Option (Status × Bytes) :=
  match contents with
  | none => some (invalidArgumentError ("Can't find file: " ++ fileName), output)
  | some contents => readLoop fileName reads (contents.length + 2) 0 ⟨contents, false, false⟩ []

/-- What writing a file comes to: whether it opens, how many bytes `fwrite` takes at most, whether
`fclose` fails, with so many of them in the file, and what `ferror` reads where the stream was,
which `fclose` has freed. -/
structure Writing where
  opens : Bool
  taken : ℕ
  close : Option ℕ
  closedError : Bool

/-- `SetContents`: the status, and what is in the file, if it has been opened. -/
def setContents (fileName : String) (content : Bytes) (w : Writing) : Status × Option Bytes :=
  if w.opens = false then
    (invalidArgumentError ("Can't open file: " ++ fileName), none)
  else
    let (_, fp) := (⟨[], false⟩ : Writer UInt8).fwrite content w.taken
    let (closed, file) := fp.fclose w.close
    if closed = true ∧ w.closedError = true then
      (internalError ("Error while writing file: " ++ fileName), some file)
    else (okStatus, some file)

/-- `ToPpmFile`. -/
def toPpmFile (fileName : String) (rawImage : RawImage) (w : Writing) : Status × Option Bytes :=
  setContents fileName (ppmContents rawImage) w

/-! ### Reading -/

section Reading

variable {fileName : String} {reads : ℕ → Read}

/-- Where the loop stands: what is in `output` and what is left are the file. -/
structure Reads (contents : Bytes) (fp : Reader UInt8) (output : Bytes) : Prop where
  split : output ++ fp.rest = contents
  eof : fp.eof = true → fp.rest = []

theorem Reads.fread {contents output : Bytes} {fp : Reader UInt8} (h : Reads contents fp output)
    (o : Read) : Reads contents (fp.fread 4096 o).2 (output ++ (fp.fread 4096 o).1) where
  split := by rw [List.append_assoc, fread_append, h.split]
  eof := fread_eof h.eof

/-- A round that goes on needs less fuel: it has taken a byte, or has seen the end. -/
theorem fuel_of_fread {fp : Reader UInt8} {fuel : ℕ} (hfuel : fp.rest.length + 2 ≤ fuel + 1)
    (o : Read) (hgoes : ¬ ((fp.fread 4096 o).1.length = 0 ∧ (fp.fread 4096 o).2.err = true)) :
    (fp.fread 4096 o).2.rest.length + (if (fp.fread 4096 o).2.eof then 1 else 2) ≤ fuel := by
  have hlength := congrArg List.length (fread_append fp 4096 o)
  rw [List.length_append] at hlength
  by_cases hbuf : (fp.fread 4096 o).1.length = 0
  · have heof : (fp.fread 4096 o).2.eof = true := by
      rcases fread_progress (by decide) (List.eq_nil_of_length_eq_zero hbuf) with herr | heof
      · exact absurd ⟨hbuf, herr⟩ hgoes
      · exact heof
    rw [if_pos heof]
    omega
  · split <;> omega

/-- **The loop returns, and returns OK only with the whole file.** -/
theorem readLoop_spec {contents output : Bytes} {fp : Reader UInt8} (h : Reads contents fp output)
    {fuel : ℕ} (hfuel : fp.rest.length + (if fp.eof then 1 else 2) ≤ fuel) (i : ℕ) :
    ∃ status result, readLoop fileName reads fuel i fp output = some (status, result) ∧
      (status.ok = true → result = contents) := by
  induction fuel generalizing fp output i with
  | zero => split at hfuel <;> omega
  | succ fuel ih =>
    rw [readLoop]
    cases heof : fp.eof with
    | true =>
      refine ⟨okStatus, output, rfl, fun _ => ?_⟩
      rw [← h.split, h.eof heof, List.append_nil]
    | false =>
      rw [heof] at hfuel
      simp only [Bool.false_eq_true, if_false] at hfuel ⊢
      split
      · exact ⟨_, output, rfl, fun hok => by rw [internalError_ok] at hok; cases hok⟩
      · rename_i hgoes
        exact ih (h.fread (reads i)) (fuel_of_fread hfuel (reads i) hgoes) (i + 1)

/-- `GetContents` reports every partial read. -/
theorem getContents_spec (fileName : String) (contents : Option Bytes) (reads : ℕ → Read)
    (output : Bytes) :
    ∃ status result, getContents fileName contents reads output = some (status, result) ∧
      (status.ok = true → contents = some result) := by
  cases contents with
  | none => exact ⟨_, output, rfl, fun hok => by rw [invalidArgumentError_ok] at hok; cases hok⟩
  | some contents =>
    have hstart : Reads contents ⟨contents, false, false⟩ [] := ⟨rfl, nofun⟩
    obtain ⟨status, result, hloop, hwhole⟩ := readLoop_spec hstart (Nat.le_refl _) 0
    exact ⟨status, result, hloop, fun hok => congrArg some (hwhole hok).symm⟩

end Reading

/-! ### Writing -/

/-- Some byte of the content is lost, in `fwrite` or when the stream is closed. -/
def Writing.Loses (w : Writing) (content : Bytes) : Prop :=
  ¬ (content.length ≤ w.taken ∧ ∀ kept ∈ w.close, content.length ≤ kept)

/-- The one case in which `SetContents` sees an error: the stream is closed without one, and still
shows one. -/
def Writing.Shows (w : Writing) : Prop := w.close = none ∧ w.closedError = true

/-- The file that is reported as written has the content. -/
def WritesWhole (written : Status × Option Bytes) (content : Bytes) : Prop :=
  written.1.ok = true → written.2 = some content

theorem setContents_of_opens {w : Writing} (hopens : w.opens = true) (fileName : String)
    (content : Bytes) : ∃ status, setContents fileName content w =
        (status, some (((⟨[], false⟩ : Writer UInt8).fwrite content w.taken).2.fclose w.close).2) ∧
      (status.ok = true ↔ ¬ w.Shows) := by
  have hclosed : (((⟨[], false⟩ : Writer UInt8).fwrite content w.taken).2.fclose w.close).1 =
      w.close.isNone := by
    cases w.close <;> rfl
  unfold setContents Writing.Shows
  simp only [hopens, Bool.true_eq_false, if_false, hclosed, Option.isNone_iff_eq_none]
  split
  · rename_i hshows
    exact ⟨_, rfl, by simp [hshows]⟩
  · rename_i hshows
    exact ⟨_, rfl, by simp [hshows]⟩

/-- **When `SetContents` returns OK only for a whole file**: exactly if no byte is lost, unless it
sees an error. -/
theorem writesWhole_iff (fileName : String) (content : Bytes) (w : Writing) :
    WritesWhole (setContents fileName content w) content ↔
      (w.opens = true → w.Loses content → w.Shows) := by
  unfold WritesWhole
  cases hopens : w.opens with
  | false =>
    refine ⟨fun _ => nofun, fun _ hok => ?_⟩
    rw [setContents, if_pos hopens, invalidArgumentError_ok] at hok
    cases hok
  | true =>
    obtain ⟨status, hset, hok⟩ := setContents_of_opens hopens fileName content
    rw [hset, hok, Option.some.injEq, fclose_fwrite_eq_iff]
    unfold Writing.Loses
    by_cases hshows : w.Shows
    · simp [hshows]
    · simp [hshows]

/-- **When no partial transfer is reported as success**: `GetContents` never does; `SetContents`,
and `ToPpmFile` with it, do exactly if a byte is lost and no error shows. -/
theorem reportsPartial_iff (fileName : String) (contents : Option Bytes) (reads : ℕ → Read)
    (output content : Bytes) (rawImage : RawImage) (w : Writing) :
    (∃ status result, getContents fileName contents reads output = some (status, result) ∧
      (status.ok = true → contents = some result)) ∧
    (WritesWhole (setContents fileName content w) content ↔
      (w.opens = true → w.Loses content → w.Shows)) ∧
    (WritesWhole (toPpmFile fileName rawImage w) (ppmContents rawImage) ↔
      (w.opens = true → w.Loses (ppmContents rawImage) → w.Shows)) :=
  ⟨getContents_spec fileName contents reads output, writesWhole_iff fileName content w,
    writesWhole_iff fileName (ppmContents rawImage) w⟩

/-! ### A full disk -/

/-- `fwrite` takes everything into its buffer, which cannot be flushed when the stream is closed. -/
def fullDisk : Writing := ⟨true, 4096, some 0, false⟩

/-- **An empty file is reported as written**, and an image as saved. -/
theorem not_writesWhole_fullDisk :
    setContents "out" [1, 2] fullDisk = (okStatus, some []) ∧
      ¬ WritesWhole (setContents "out" [1, 2] fullDisk) [1, 2] ∧
      ¬ WritesWhole (toPpmFile "out" blankPixel fullDisk) (ppmContents blankPixel) := by
  refine ⟨rfl, fun h => ?_, fun h => ?_⟩
  · cases h rfl
  · have hfile : (some [] : Option Bytes) = some (ppmContents blankPixel) := h rfl
    rw [ppmContents_eq] at hfile
    cases hfile

end AIStreams.FileHelpers
