import Listening.History.Follower
import Listening.Proofs.LookAgreement
import Listening.Proofs.RecordRoundTrip
import Listening.Proofs.RememberedLists
import Mathlib.Data.List.Induction

/-!
# Keeping what is known

A follower with a file keeps every list it accepts, as the source returned it,
and begins with the list that is kept. So what it knows and what its file holds
are plays of the same tracks at all times, though they are not the same plays:
a record leaves out some of a play, and one list is turned round if the source
lists its oldest play first. `Follower.Mirrored` says this of a follower and
its file. It holds at the beginning (`Mirrored.start`), whatever the file held,
and after every look (`Mirrored.process`), be the list accepted or not, and
whether or not the look ends; `Mirrored.afterLooks` is the run of them.
-/

namespace Listening

/-- A single item is always kept. -/
theorem Window.lastOf_singleton {α : Type} {count : Nat} (hcount : 0 < count) (a : α) :
    lastOf count [a] = [a] := by
  unfold lastOf
  rw [List.length_singleton, Nat.sub_eq_zero_of_le hcount]
  rfl

/-! ## Lists that are turned round or begun with -/

namespace History

/-- A list that was turned round twice is the list. -/
theorem ordered_ordered (h : History) (plays : List Play) :
    h.ordered (h.ordered plays) = plays := by
  unfold ordered
  split
  · rfl
  · exact List.reverse_reverse plays

/-- Lists of the same tracks are so turned round. -/
theorem sameTracks_ordered {ps qs : List Play} (h : History) (hsame : Play.SameTracks ps qs) :
    Play.SameTracks (h.ordered ps) (h.ordered qs) := by
  unfold ordered
  split
  · exact hsame
  · exact hsame.reverse

/-- Lists of the same tracks have the same signature. -/
theorem signature?_congr {ps qs : List Play} (hsame : Play.SameTracks ps qs) :
    signature? ps = signature? qs := mapM_congr hsame.identities

/-- A list that is turned round has a signature, too. -/
theorem exists_signature?_ordered {ps : List Play} (h : History) {signature : Signature}
    (hps : signature? ps = .ok signature) :
    ∃ turned, signature? (h.ordered ps) = .ok turned := by
  unfold ordered
  split
  · exact ⟨signature, hps⟩
  · refine ⟨signature.reverse, ?_⟩
    have hread : ps.reverse.map Play.identity? = signature.reverse.map .ok := by
      rw [List.map_reverse, map_eq_of_mapM_eq_ok hps, List.map_reverse]
    exact mapM_eq_ok_of_map_eq hread

/-- The history that has begun anew with a list. -/
def restored (h : History) (plays : List Play) (now : Instant)
    (signature : Signature) : History :=
  { h with known := some (h.ordered plays), observedAt := some now, seen := [signature] }

/-- **A list that can be identified can be begun with**, and then is all that is
remembered. -/
theorem restore_of_signature {h : History} {plays : List Play} {signature : Signature}
    (hsigned : signature? (h.ordered plays) = .ok signature) (now : Instant) :
    h.restore plays now = .ok () (h.restored plays now signature) := by
  unfold restore accept
  rw [hsigned]
  show Step.ok () { h with
    known := some (h.ordered plays)
    observedAt := some now
    seen := Window.lastOf h.capacity [signature] } = _
  rw [Window.lastOf_singleton h.capacity_pos]
  rfl

/-- A list that cannot be identified cannot be begun with. -/
theorem restore_of_fault {h : History} {plays : List Play} {e : Fault}
    (hsigned : signature? (h.ordered plays) = .error e) (now : Instant) :
    (h.restore plays now).result = .error e := by
  unfold restore accept
  rw [hsigned]
  rfl

end History

/-- What is read where a list was written are plays of the same tracks. -/
theorem sameTracks_reread {ps : List Play} (h : ∀ p ∈ ps, p.Typed) :
    Play.SameTracks (ps.map Play.reread) ps := by
  refine ⟨?_, ?_⟩
  · rw [List.map_map]
    refine List.map_congr_left fun p hp => ?_
    show p.reread.identity? = p.identity?
    rw [(h p hp).reread.identity?_eq, (h p hp).identity?_eq, (h p hp).identity_reread]
  · rw [List.map_map]
    exact List.map_congr_left fun p hp => (h p hp).label?_reread

namespace Follower

open History (signature?)

/-! ## Beginning -/

section Start

variable {settings : History} {name : String} {file : StateFile} {now : Instant}

/-- **Where nothing is kept, nothing is known.** -/
theorem start?_of_nothing (hkept : (StateFile.plays? file.document name).getD [] = []) :
    start? settings name (some file) now = .ok ⟨settings, name, some file⟩ := by
  unfold start?
  rw [Option.bind_some]
  split
  · rename_i hplays
    rw [hplays] at hkept
    exact nomatch hkept
  · rfl

/-- **A list that is kept is what is known**, if its plays can be identified. -/
theorem start?_of_kept {plays : List Play}
    (hkept : StateFile.plays? file.document name = some plays) (hplays : plays ≠ []) :
    start? settings name (some file) now
      = (signature? (settings.ordered plays)).map fun signature =>
          ⟨settings.restored plays now signature, name, some file⟩ := by
  obtain ⟨p, ps, rfl⟩ := List.exists_cons_of_ne_nil hplays
  unfold start?
  rw [Option.bind_some, hkept]
  cases hsigned : signature? (settings.ordered (p :: ps)) with
  | error e =>
    dsimp only
    rw [History.restore_of_fault hsigned]
    rfl
  | ok signature =>
    dsimp only
    rw [History.restore_of_signature hsigned]
    rfl

/-- **A follower that has begun** knows nothing new, or what is kept. -/
theorem start?_eq_ok {f : Follower} (hstart : start? settings name (some file) now = .ok f) :
    f = ⟨settings, name, some file⟩ ∧ (StateFile.plays? file.document name).getD [] = []
      ∨ ∃ plays signature, StateFile.plays? file.document name = some plays
        ∧ signature? (settings.ordered plays) = .ok signature
        ∧ f = ⟨settings.restored plays now signature, name, some file⟩ := by
  by_cases hnothing : (StateFile.plays? file.document name).getD [] = []
  · rw [start?_of_nothing hnothing] at hstart
    exact Or.inl ⟨(Except.ok.inj hstart).symm, hnothing⟩
  · cases hkept : StateFile.plays? file.document name with
    | none => exact absurd (by rw [hkept]; rfl) hnothing
    | some plays =>
      have hplays : plays ≠ [] := fun he => hnothing (by rw [hkept, he]; rfl)
      rw [start?_of_kept hkept hplays] at hstart
      cases hsigned : signature? (settings.ordered plays) with
      | error e =>
        rw [hsigned] at hstart
        exact nomatch hstart
      | ok signature =>
        rw [hsigned] at hstart
        exact Or.inr ⟨plays, signature, rfl, hsigned, (Except.ok.inj hstart).symm⟩

end Start

/-! ## Looking -/

section Process

variable {f : Follower} {plays : List Play} {now : Instant}

/-- A look that ends keeps the list if it was accepted. -/
theorem process_of_ok {finding : History.Finding} {h' : History}
    (hlook : f.history.evaluate plays now = .ok finding h') :
    f.process plays now = .ok finding.plays
      { f with
        history := h'
        file := if finding.accepted then f.file.map fun s =>
          s.keep f.name plays else f.file } := by
  unfold process
  rw [hlook]
  show Step.ok finding.plays _ = _
  cases finding.accepted <;> rfl

/-- A look that fails keeps nothing. -/
theorem process_of_fail {e : Fault} {h' : History}
    (hlook : f.history.evaluate plays now = .fail e h') :
    f.process plays now = .fail e { f with history := h' } := by
  unfold process
  rw [hlook]
  rfl

/-- Saving writes what has not been written yet, and changes nothing else. -/
theorem save_eq {ω : Type} {file : StateFile} (hfile : f.file = some file)
    (write : Path → String → ω → ω) (outside : ω) :
    f.save write outside
      = ({ f with file := some { file with unsaved := false } },
          if file.unsaved then write file.path (StateFile.text file.document) outside
          else outside) := by
  obtain ⟨path, document, unsaved⟩ := file
  unfold save
  rw [hfile]
  cases unsaved <;> rfl

end Process

/-- **A look at a list, and saving after it**: a follower, and what was written
to its file last. -/
def attend (row : List Play × Instant) (s : Follower × Option String) :
    Follower × Option String :=
  (s.1.process row.1 row.2).state.save (fun _ text _ => some text) s.2

/-- **What looks leave**, one after the other. -/
def afterLooks (rows : List (List Play × Instant)) (f : Follower) : Follower × Option String :=
  rows.foldl (fun s row => attend row s) (f, none)

theorem afterLooks_append_singleton (rows : List (List Play × Instant))
    (row : List Play × Instant) (f : Follower) :
    f.afterLooks (rows ++ [row]) = attend row (f.afterLooks rows) := by
  unfold afterLooks
  rw [List.foldl_concat]

/-! ## A file that holds what is known -/

/-- **What a file keeps of what is known**: nothing of nothing, and otherwise
plays of the same tracks, in the order of the source. -/
inductive Keeps (h : History) (kept : Option (List Play)) : Prop where
  /-- Nothing is known, and nothing to be restored is kept. -/
  | nothing (isKnown : h.known = none) (isSeen : h.seen = []) (isKept : kept.getD [] = [])
  /-- What is known is kept, and remembered as the last list. -/
  | list (known plays : List Play) (signature : History.Signature)
    (isKnown : h.known = some known)
      (isKept : kept = some plays) (same : Play.SameTracks plays (h.ordered known))
      (signed : signature? known = .ok signature) (isSeen : [signature] <:+ h.seen)

/-- **A follower and its file** that holds what it knows. -/
structure Mirrored (settings : History) (name : String) (f : Follower) (file : StateFile) :
    Prop where
  /-- It reads lists as it was told to. -/
  newestFirst : f.history.newestFirst = settings.newestFirst
  /-- It remembers as many of them as it was told to. -/
  memory : f.history.memory = settings.memory
  /-- It follows this list. -/
  isName : f.name = name
  /-- This is its file. -/
  isFile : f.file = some file
  /-- The last look was at a time with an offset. -/
  observed : ∀ t, f.history.observedAt = some t → t.offset.isSome = true
  /-- The file holds what is known. -/
  keeps : Keeps f.history (StateFile.plays? file.document name)

section Mirrored

variable {settings : History} {name : String} {f : Follower} {file : StateFile}

/-- What is kept of what is known is restored as what is known. -/
theorem sameTracks_known {h : History} {known plays : List Play}
    (same : Play.SameTracks plays (h.ordered known))
    (hnewest : h.newestFirst = settings.newestFirst) :
    Play.SameTracks (settings.ordered plays) known := by
  have hturned : settings.ordered (h.ordered known) = known := by
    have hordered : settings.ordered (h.ordered known) = h.ordered (h.ordered known) := by
      unfold History.ordered
      rw [hnewest]
    rw [hordered, History.ordered_ordered]
  have hsame := History.sameTracks_ordered settings same
  rwa [hturned] at hsame

/-- **A follower that begins** knows what its file holds. -/
theorem Mirrored.start (hknown : settings.known = none) (hobserved : settings.observedAt = none)
    (hseen : settings.seen = []) {now : Instant} (hclock : now.offset.isSome = true)
    (hstart : start? settings name (some file) now = .ok f) : Mirrored settings name f file := by
  rcases start?_eq_ok hstart with ⟨rfl, hkept⟩ | ⟨plays, signature, hkept, hsigned, rfl⟩
  · exact ⟨rfl, rfl, rfl, rfl, fun t ht => (nomatch ht.symm.trans hobserved),
      .nothing hknown hseen hkept⟩
  · refine ⟨rfl, rfl, rfl, rfl, fun t ht => ?_, ?_⟩
    · obtain rfl := Option.some.inj ht
      exact hclock
    · refine .list (settings.ordered plays) plays signature rfl hkept ?_ hsigned
        (List.suffix_refl _)
      have hturned : (settings.restored plays now signature).ordered (settings.ordered plays)
          = plays := History.ordered_ordered settings plays
      rw [hturned]
      exact .refl plays

/-- A history that has accepted a list knows what is kept of it. -/
theorem Keeps.afterAccepting (h : History) {plays : List Play} (htyped : ∀ p ∈ plays, p.Typed)
    (now : Instant) :
    Keeps (h.afterAccepting (h.ordered plays) now) (some (plays.map Play.reread)) := by
  have hturned : (h.afterAccepting (h.ordered plays) now).ordered (h.ordered plays) = plays :=
    History.ordered_ordered h plays
  refine .list (h.ordered plays) (plays.map Play.reread)
    (Play.identities (h.ordered plays)) rfl rfl
    ?_ (History.signature?_of_typed fun p hp => htyped p (History.mem_ordered.mp hp)) ?_
  · rw [hturned]
    exact sameTracks_reread htyped
  · obtain ⟨earlier, he⟩ := History.lastOf_append_singleton h.capacity_pos h.seen
      (Play.identities (h.ordered plays))
    exact ⟨earlier, he.symm⟩

/-- A look that accepts the list keeps it. -/
theorem Mirrored.accepted (hm : Mirrored settings name f file) {plays : List Play}
    {now : Instant}
    (hplays : ∀ p ∈ plays, p.Typed ∧ p.OnCalendar) (hclock : now.offset.isSome = true)
    {finding : History.Finding}
    (hlook : f.history.evaluate plays now
      = .ok finding (f.history.afterAccepting (f.history.ordered plays) now))
    (htaken : finding.accepted = true) :
    Mirrored settings name (f.process plays now).state (file.keep name plays) := by
  rw [process_of_ok hlook, Step.state_ok, htaken, if_pos rfl, hm.isFile, hm.isName]
  refine ⟨hm.newestFirst, hm.memory, rfl, rfl, fun t ht => ?_, ?_⟩
  · obtain rfl := Option.some.inj ht
    exact hclock
  · have hkept := StateFile.plays?_withPlays (fun p hp => (hplays p hp).2) file.document name
    show Keeps _ (StateFile.plays? (StateFile.withPlays file.document name plays) name)
    rw [hkept]
    exact .afterAccepting f.history (fun p hp => (hplays p hp).1) now

/-- A later look at the known list changes nothing of what is known. -/
theorem Mirrored.observe (hm : Mirrored settings name f file) {now : Instant}
    (hclock : now.offset.isSome = true) :
    Mirrored settings name { f with history := { f.history with observedAt := some now } }
      file where
  newestFirst := hm.newestFirst
  memory := hm.memory
  isName := hm.isName
  isFile := hm.isFile
  observed := fun t ht => by
    obtain rfl := Option.some.inj ht
    exact hclock
  keeps := by
    cases hm.keeps with
    | nothing isKnown isSeen isKept => exact .nothing isKnown isSeen isKept
    | list known kept signature isKnown isKept same signed isSeen =>
      exact .list known kept signature isKnown isKept same signed isSeen

/-- **A look leaves the file holding what is known**, and something is. -/
theorem Mirrored.process (hm : Mirrored settings name f file) {plays : List Play} {now : Instant}
    (hplays : ∀ p ∈ plays, p.Typed ∧ p.OnCalendar) (hclock : now.offset.isSome = true) :
    ∃ file', Mirrored settings name (f.process plays now).state file'
      ∧ (file' = file ∨ file'.unsaved = true)
      ∧ (f.process plays now).state.history.known ≠ none := by
  have htyped : ∀ p ∈ plays, p.Typed := fun p hp => (hplays p hp).1
  have haccepted : ∀ finding, f.history.evaluate plays now
        = .ok finding (f.history.afterAccepting (f.history.ordered plays) now) →
      finding.accepted = true → ∃ file', Mirrored settings name (f.process plays now).state file'
        ∧ (file' = file ∨ file'.unsaved = true)
        ∧ (f.process plays now).state.history.known ≠ none := by
    intro finding hlook htaken
    refine ⟨_, hm.accepted hplays hclock hlook htaken, Or.inr rfl, ?_⟩
    rw [process_of_ok hlook, Step.state_ok]
    exact fun he => nomatch he
  cases hm.keeps with
  | nothing isKnown isSeen isKept =>
    obtain ⟨finding, hlook, htaken, -⟩ := History.exists_evaluate_of_unknown htyped isKnown now
    exact haccepted finding hlook htaken
  | list known kept signature isKnown isKept same signed isSeen =>
    have hsome : f.history.known ≠ none := fun he => nomatch isKnown.symm.trans he
    -- what a look may do, it does to a history that agrees with itself
    have hagree := History.agree_evaluate htyped rfl now isKnown isKnown (.refl known)
      (fun _ => rfl) (Or.inl rfl)
    generalize hlook : f.history.evaluate plays now = look at hagree
    cases hagree with
    | failed e why =>
      rw [process_of_fail hlook]
      exact ⟨file, hm, Or.inl rfl, hsome⟩
    | left finding kept =>
      rw [process_of_ok hlook, Step.state_ok, kept, if_neg Bool.false_ne_true]
      exact ⟨file, hm, Or.inl rfl, hsome⟩
    | noted finding kept =>
      rw [process_of_ok hlook, Step.state_ok, kept, if_neg Bool.false_ne_true]
      exact ⟨file, hm.observe hclock, Or.inl rfl, hsome⟩
    | accepted finding taken => exact haccepted finding hlook taken

/-- **A look as a source and a clock promise it**: at typed plays with times
that a clock can show, at a time with an offset. -/
structure IsLook (row : List Play × Instant) : Prop where
  /-- The plays are typed, and their times are on the calendar. -/
  plays : ∀ p ∈ row.1, p.Typed ∧ p.OnCalendar
  /-- The time has an offset. -/
  clock : row.2.offset.isSome = true

/-- Saving leaves the document as it is. -/
theorem Mirrored.save (hm : Mirrored settings name f file) {ω : Type}
    (write : Path → String → ω → ω) (outside : ω) :
    Mirrored settings name (f.save write outside).1 { file with unsaved := false } := by
  rw [save_eq hm.isFile]
  exact ⟨hm.newestFirst, hm.memory, hm.isName, rfl, hm.observed, hm.keeps⟩

/-- **What is written is the document**: all that was changed since it was read
has been written. -/
def IsWritten (first file : StateFile) (written : Option String) : Prop :=
  written = some (StateFile.text file.document) ∨ written = none ∧ file.document = first.document

/-- **However many looks it takes, the file holds what is known**, and
something is known from the first one on. -/
theorem Mirrored.afterLooks {rows : List (List Play × Instant)}
    (hm : Mirrored settings name f file) (hrows : ∀ row ∈ rows, IsLook row) :
    ∃ file', Mirrored settings name (f.afterLooks rows).1 file'
      ∧ IsWritten file file' (f.afterLooks rows).2
      ∧ (rows ≠ [] → (f.afterLooks rows).1.history.known ≠ none) := by
  induction rows using List.reverseRecOn with
  | nil => exact ⟨file, hm, Or.inr ⟨rfl, rfl⟩, fun hne => absurd rfl hne⟩
  | append_singleton rows row ih =>
    obtain ⟨file', hm', hwritten, -⟩ :=
      ih fun row hrow => hrows row (List.mem_append_left _ hrow)
    have hrow := hrows row (List.mem_append_right _ List.mem_cons_self)
    obtain ⟨file'', hm'', hchanged, hsome⟩ := hm'.process hrow.plays hrow.clock
    have hsaved := hm''.save (fun _ text _ => some text) (f.afterLooks rows).2
    rw [afterLooks_append_singleton]
    refine ⟨_, hsaved, ?_, fun _ => ?_⟩
    · unfold attend
      rw [save_eq hm''.isFile]
      dsimp only
      -- a document that is not written now has not changed
      by_cases hunsaved : file''.unsaved = true
      · exact Or.inl (if_pos hunsaved)
      · rw [if_neg hunsaved]
        obtain rfl := hchanged.resolve_right hunsaved
        exact hwritten
    · unfold attend
      rw [save_eq hm''.isFile]
      exact hsome

/-- **What is read from such a file** are plays of the tracks that are known, in
the order of the source. -/
theorem Mirrored.exists_signature (hm : Mirrored settings name f file)
    (hsome : f.history.known ≠ none) :
    ∃ known plays signature, f.history.known = some known
      ∧ StateFile.plays? file.document name = some plays
      ∧ signature? plays = .ok signature
      ∧ signature? (f.history.ordered known) = .ok signature := by
  cases hm.keeps with
  | nothing isKnown isSeen isKept => exact absurd isKnown hsome
  | list known plays signature isKnown isKept same signed isSeen =>
    obtain ⟨turned, hturned⟩ := History.exists_signature?_ordered f.history signed
    exact ⟨known, plays, turned, isKnown, isKept,
      (History.signature?_congr same).trans hturned, hturned⟩

end Mirrored

end Follower

end Listening
