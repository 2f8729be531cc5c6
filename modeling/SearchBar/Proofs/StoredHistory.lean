import SearchBar.Proofs.Files
import SearchBar.Proofs.JsonLayout
import SearchBar.Store

/-!
# Histories in their file

What a history is saved as is read back as that history (`History.decode_encode`), so a file system
in which it was saved is one from which it is loaded (`run_loadHistory_saved`).  Loading leaves the
file system alone (`run_loadHistory`), and saving does what the two operations it is made of do
(`run_saveHistory_saved`, `saved_of_run_saveHistory`).  So saving and then loading is the identity,
and saving once more changes nothing (`loadHistory_saveHistory`).
-/

namespace SearchBar

/-! ## The text of a history -/

theorem decodeText_toUTF8 (text : String) : decodeText (.ok text.toUTF8) = .ok text := by
  have hvalid : String.fromUTF8? text.toUTF8 = some text := by
    rw [String.fromUTF8?, String.toUTF8_eq_toByteArray, dif_pos text.isValidUTF8]
    rfl
  rw [decodeText]
  simp only [hvalid]

theorem History.ofJson_toJson (h : History) : ofJson h.toJson.pretty = .ok h := by
  have hread : Json.readWhole Json.readTexts h.toJson.pretty = .ok h.queries := by
    rw [toJson, Json.Tree.pretty, ← Json.chars_pretty]
    apply Json.readWhole_of_reader
    have hchars := Json.Layout.pretty.readTexts_chars 0 h.queries []
    rwa [List.append_nil] at hchars
  rw [ofJson, hread]

/-- A history is read back from the bytes that it is saved as. -/
theorem History.decode_encode (h : History) : decode (.ok h.encode) = .ok h := by
  rw [decode, encode, decodeText_toUTF8]
  simp only [ofJson_toJson]

/-! ## Running -/

/-- What follows starts where the first part stopped. -/
theorem run_bind {α β : Type} (x : StateM FileSystem α) (f : α → StateM FileSystem β)
    (fs : FileSystem) : (x >>= f).run fs = (f (x.run fs).1).run (x.run fs).2 := rfl

theorem run_makeParents (path : String) (fs : FileSystem) :
    (Storage.makeParents (m := StateM FileSystem) path).run fs = fs.makeParents path := rfl

theorem run_write (path : String) (bytes : ByteArray) (fs : FileSystem) :
    (Storage.write (m := StateM FileSystem) path bytes).run fs = fs.write path bytes := rfl

/-! ## Loading and saving -/

variable {fs fs' : FileSystem} {path : String}

/-- Loading a history reads its file, if it is there, and changes nothing. -/
theorem run_loadHistory (path : String) (fs : FileSystem) :
    (loadHistory (m := StateM FileSystem) path).run fs =
      (if fs.pathExists path then History.decode (fs.read path) else .ok .empty, fs) := by
  show (if fs.pathExists path = true then _ else _ : StateM FileSystem (Outcome History)) fs = _
  cases fs.pathExists path <;> rfl

/-- Saving a history makes the directories and then writes the file; either can fail, and not
without a trace. -/
theorem run_saveHistory (path : String) (h : History) (fs : FileSystem) :
    (saveHistory (m := StateM FileSystem) path h).run fs =
      match fs.makeParents path with
      | (.error fault, made) => (.fail (.bare (.file fault)), made)
      | (.ok (), made) =>
        match made.write path h.encode with
        | (.error fault, fs') => (.fail (.bare (.file fault)), fs')
        | (.ok (), fs') => (⟨.ok (), [.historySaved path h.queries.length]⟩, fs') := by
  rw [saveHistory, run_bind, run_makeParents]
  obtain ⟨result, made⟩ := fs.makeParents path
  cases result with
  | error fault => rfl
  | ok u =>
    simp only [run_bind, run_write]
    obtain ⟨result, fs'⟩ := made.write path h.encode
    cases result <;> rfl

/-- Saving succeeds if the directories can be made and the file can be written. -/
theorem run_saveHistory_saved {h : History} (hsaved : FileSystem.Saved path h.encode fs fs') :
    (saveHistory (m := StateM FileSystem) path h).run fs =
      (⟨.ok (), [.historySaved path h.queries.length]⟩, fs') := by
  obtain ⟨made, hmake, hwrite⟩ := hsaved
  rw [run_saveHistory, hmake]
  simp only [hwrite]

/-- What was saved is loaded, whatever was there before. -/
theorem run_loadHistory_saved {h : History} (hsaved : FileSystem.Saved path h.encode fs fs') :
    (loadHistory (m := StateM FileSystem) path).run fs' = (.ok h, fs') := by
  obtain ⟨made, -, hwrite⟩ := hsaved
  rw [run_loadHistory, if_pos (FileSystem.pathExists_write hwrite), FileSystem.read_write hwrite,
    History.decode_encode]

/-- Saving succeeds only if the directories were made and the file was written. -/
theorem saved_of_run_saveHistory {h : History}
    (hok : ((saveHistory (m := StateM FileSystem) path h).run fs).1.result = .ok ()) :
    FileSystem.Saved path h.encode fs ((saveHistory (m := StateM FileSystem) path h).run fs).2 := by
  rw [run_saveHistory] at hok ⊢
  cases hmake : fs.makeParents path with
  | mk made after =>
    rw [hmake] at hok
    cases made with
    | error fault => cases hok
    | ok u =>
      cases hwrite : after.write path h.encode with
      | mk written fs' =>
        cases written with
        | error fault =>
          simp only [hwrite] at hok
          cases hok
        | ok u =>
          refine ⟨after, hmake, ?_⟩
          simp only [hwrite]

/-- Recording a query saves the loaded history with the query added, if it could be loaded. -/
theorem run_recordQuery (path query : String) (fs : FileSystem) :
    (recordQuery (m := StateM FileSystem) path query).run fs =
      let loaded := ((loadHistory (m := StateM FileSystem) path).run fs).1
      match loaded.result with
      | .error failure => (⟨.error failure, loaded.events⟩, fs)
      | .ok history =>
        let saved := (saveHistory (m := StateM FileSystem) path (history.add query)).run fs
        (⟨saved.1.result, loaded.events ++ saved.1.events⟩, saved.2) := by
  rw [recordQuery, run_bind, run_loadHistory]
  generalize (if fs.pathExists path then History.decode (fs.read path) else .ok .empty) = loaded
  obtain ⟨result, events⟩ := loaded
  cases result <;> rfl

end SearchBar
