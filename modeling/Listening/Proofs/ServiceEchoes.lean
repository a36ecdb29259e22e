import Listening.Proofs.CreditNormalForm
import Listening.Proofs.SentOnce
import Listening.Proofs.TimestampRoundTrip
import Listening.Service.Client
import Mathlib.Data.Set.List

/-!
# What comes back from the listening service

What was submitted of a play comes back as a track of the list of the account
(`Track.Echoes`), and the track stands for a play of its own: its title
and its album are those that were submitted, its time is the second, its artist
is the credit, and the service is its source. Is that play one listen with
the one that was submitted?

It is, unless the credit of several artists stands in their place, or the time
was lost (`Account.knows_again_iff`). Then a dispatcher that was told what the
account has keeps the play back from it.
-/

namespace Listening

/-! ## Artists -/

/-- The artists of a typed play are texts. -/
theorem Play.Typed.exists_artists {p : Play} (h : p.Typed) :
    ∃ artists : List String, artists.map Label.text = p.artists := by
  have hrange : p.artists ∈ Set.range (List.map Label.text) := by
    rw [Set.range_list_map]
    intro a ha
    cases a with
    | text name => exact ⟨name, rfl⟩
    | absent => exact nomatch h.artists _ ha
    | other v => exact nomatch h.artists _ ha
  exact hrange

/-- The names of artists that are texts are the names of the texts. -/
theorem Play.artistNames_of_texts {p : Play} {artists : List String}
    (h : artists.map Label.text = p.artists) : p.artistNames = Text.namesOf artists := by
  unfold artistNames Text.namesOf
  rw [← h, List.map_map]
  rfl

/-- Artists that are texts make one credit. -/
theorem Play.credit?_of_texts {p : Play} {artists : List String}
    (h : artists.map Label.text = p.artists) : p.credit? = .ok (Text.creditOf artists) := by
  have hnames : artists.mapM (Label.text? ∘ Label.text) = .ok (artists.map id) :=
    mapM_eq_ok fun _ _ => rfl
  unfold credit?
  rw [← h, List.mapM_map, hnames, List.map_id]
  rfl

/-! ## What one listen is -/

namespace Match

/-- Plays that are one listen are of one track. -/
theorem content?_of_sameListen? {known other : Play} (h : sameListen? known other = .ok true) :
    content? known other = .ok true := by
  unfold sameListen? at h
  cases hcontent : content? known other with
  | error e => rw [hcontent] at h; exact nomatch h
  | ok same =>
    cases same with
    | true => rfl
    | false => rw [hcontent] at h; exact nomatch h

/-- Plays that are one listen have a time. -/
theorem isSome_playedAt_of_sameListen? {known other : Play}
    (h : sameListen? known other = .ok true) : known.playedAt.isSome = true := by
  have hcontent := content?_of_sameListen? h
  unfold sameListen? at h
  cases hplayed : known.playedAt with
  | some t => rfl
  | none =>
    have hcompare : compare? known other = .ok {} := by
      unfold compare?
      rw [hplayed]
    rw [hcontent, hcompare] at h
    exact nomatch h

end Match

namespace Service

/-! ## Tracks that echo a submission -/

/-- **Whether a track is what was submitted.** The service may tell the
timestamp as a number or as its numeral. -/
structure Track.Echoes (t : Track) (s : Submission) : Prop where
  /-- The title is that of the submission. -/
  title : t.title = s.title.toJson
  /-- The artist is its credit. -/
  artist : t.artist = .str s.artist
  /-- The album is its album. -/
  album : t.album = s.album.toJson
  /-- The timestamp is its timestamp. -/
  timestamp : t.timestamp = .str (toString s.timestamp) ∨ t.timestamp = .int s.timestamp

variable {p : Play} {now : Instant} {s : Submission} {t : Track}

/-- The timestamp is read as what it was, unless its numeral is too long. -/
theorem Track.Echoes.whole?_cases (h : t.Echoes s) :
    (Amount.ofJson t.timestamp).whole? = .ok (some s.timestamp)
      ∨ (Amount.ofJson t.timestamp).whole? = .error .noNumeral
        ∧ ¬ s.timestamp.natAbs < 10 ^ Number.digitLimit := by
  rcases h.timestamp with htext | hnumber
  · have hread := Number.wholeNumber?_toString s.timestamp
    rw [htext]
    by_cases hfew : s.timestamp.natAbs < 10 ^ Number.digitLimit
    · rw [if_pos hfew] at hread
      exact Or.inl (by simp only [Amount.ofJson, Amount.whole?, hread])
    · rw [if_neg hfew] at hread
      exact Or.inr ⟨by simp only [Amount.ofJson, Amount.whole?, hread], hfew⟩
  · rw [hnumber]
    exact Or.inl rfl

/-- **The time of a track that comes back** is the second that was submitted.
It is lost if the timestamp is the number zero or none of the calendar. -/
theorem Track.Echoes.playedAt?_eq_some_iff (h : t.Echoes s) {played : Instant} :
    t.playedAt? = .ok (some played) ↔ t.timestamp.truthy = true
      ∧ Instant.InCalendar s.timestamp ∧ played = ⟨s.timestamp * Instant.second, some 0⟩ := by
  unfold playedAt?
  by_cases htruthy : t.timestamp.truthy = true
  · rw [if_pos htruthy]
    rcases h.whole?_cases with hread | ⟨hfailed, hlong⟩
    · rw [hread, ← Instant.ofUnixSeconds?_eq_ok_iff]
      simp only [htruthy, true_and, Bind.bind, Except.bind]
      cases Instant.ofUnixSeconds? s.timestamp with
      | ok t => simp
      | error e => simp
    · rw [hfailed]
      exact ⟨(nomatch ·), fun ⟨_, hcalendar, _⟩ => absurd hcalendar.natAbs_lt hlong⟩
  · rw [if_neg htruthy]
    exact ⟨(nomatch ·), fun ⟨h, _⟩ => absurd h htruthy⟩

/-! ## The play that comes back -/

/-- **The play that comes back** of one with a credit. -/
def Account.returned (a : Account) (p : Play) (credit : String) (playedAt : Option Instant) :
    Play where
  title := p.title
  artists := if credit.isEmpty then [] else [.text credit]
  album := if p.album.isGiven then p.album else .absent
  playedAt := playedAt
  source := .text a.name
  user := .ofText? a.user

/-- What is submitted of a typed play. -/
theorem Submission.of_ofPlay? {artists : List String}
    (hartists : artists.map Label.text = p.artists)
    (h : ofPlay? p now = .ok s) : s.title = p.title ∧ s.album = p.album
      ∧ s.artist = Text.creditOf artists
      ∧ (p.playedAt.getD now).unixSeconds? = .ok s.timestamp := by
  unfold ofPlay? at h
  rw [Play.credit?_of_texts hartists] at h
  cases hseconds : (p.playedAt.getD now).unixSeconds? with
  | error e => rw [hseconds] at h; exact nomatch h
  | ok seconds =>
    rw [hseconds] at h
    simp only [Bind.bind, Except.bind] at h
    split at h
    · cases hduration : p.duration.whole? with
      | error e => rw [hduration] at h; exact nomatch h
      | ok duration =>
        rw [hduration] at h
        obtain rfl := Except.ok.inj h
        exact ⟨rfl, rfl, rfl, rfl⟩
    · obtain rfl := Except.ok.inj h
      exact ⟨rfl, rfl, rfl, rfl⟩

/-- **A track that comes back** stands for the play that comes back, if its
time can be read. -/
theorem Track.Echoes.play?_eq (h : t.Echoes s) (hp : p.Typed) (htitle : s.title = p.title)
    (halbum : s.album = p.album) (a : Account) :
    t.play? a.name a.user = t.playedAt?.map (a.returned p s.artist) := by
  have hsong : Label.text t.title.display = p.title := by
    rw [h.title, htitle]
    cases hp' : p.title with
    | text name => rfl
    | absent => exact nomatch hp' ▸ hp.title
    | other v => exact nomatch hp' ▸ hp.title
  have hartists : (if t.artist.truthy then [Label.text t.artist.display] else [])
      = if s.artist.isEmpty then [] else [.text s.artist] := by
    rw [h.artist]
    show (if (!s.artist.isEmpty) = true then _ else _) = _
    cases s.artist.isEmpty <;> rfl
  have hrecord : (if t.album.truthy then Label.ofJson t.album else .absent)
      = if p.album.isGiven then p.album else .absent := by
    rw [h.album, halbum]
    show (if p.album.isGiven then _ else _) = _
    cases hp' : p.album with
    | text name => rfl
    | absent => rfl
    | other v => exact nomatch hp' ▸ hp.album
  unfold play?
  rw [hsong, hartists, hrecord]
  cases t.playedAt? <;> rfl

namespace Account

variable (a : Account) {credit : String} {playedAt : Option Instant}

theorem typed_returned (hp : p.Typed) : (a.returned p credit playedAt).Typed := by
  refine ⟨hp.title, fun name hname => ?_, ?_, rfl, rfl, rfl⟩
  · unfold returned at hname
    dsimp only at hname
    split at hname
    · exact absurd hname List.not_mem_nil
    · rw [List.mem_singleton.mp hname]
      rfl
  · unfold returned
    dsimp only
    split
    · exact hp.album
    · rfl

/-- The names of the play that comes back are those of its credit. -/
theorem artistNames_returned : (a.returned p credit playedAt).artistNames
    = Text.namesOf [credit] := by
  unfold returned Play.artistNames
  dsimp only
  by_cases hempty : credit = ""
  · have hnone : [] = Text.namesOf [""] := by decide
    rw [hempty]
    exact hnone
  · rw [if_neg (by simpa using hempty)]
    rfl

/-- **A play that comes back is of the same track** if and only if at most one
artist has a normal form. -/
theorem content?_returned (hp : p.Typed) {artists : List String}
    (hartists : artists.map Label.text = p.artists) :
    Match.content? (a.returned p (Text.creditOf artists) playedAt) p = .ok true
      ↔ p.artistNames.length ≤ 1 := by
  -- the service gives the track no id, and an album that it does not name is no difference
  have hids : Match.idsDiffer (a.returned p (Text.creditOf artists) playedAt) p = false := by
    unfold Match.idsDiffer
    rw [show (a.returned p (Text.creditOf artists) playedAt).trackId.isPresent = false from rfl,
      Bool.and_false, Bool.false_and, Bool.false_and]
  have halbums : (!((a.returned p (Text.creditOf artists) playedAt).album.isGiven
      && p.album.isGiven) || (a.returned p (Text.creditOf artists) playedAt).album.plain
        == p.album.plain) = true := by
    unfold returned
    dsimp only
    by_cases hgiven : p.album.isGiven = true
    · rw [if_pos hgiven, beq_self_eq_true, Bool.or_true]
    · rw [Bool.not_eq_true] at hgiven
      rw [hgiven, Bool.and_false]
      rfl
  rw [Match.content?_of_typed (a.typed_returned hp) hp, hids, halbums,
    show (a.returned p (Text.creditOf artists) playedAt).title = p.title from rfl,
    beq_self_eq_true, Bool.not_false, Bool.true_and, Bool.true_and, Bool.true_and,
    artistNames_returned]
  refine Iff.trans ⟨Except.ok.inj, congrArg Except.ok⟩ ?_
  rw [Play.artistNames_of_texts hartists]
  exact Match.sameMembers_creditOf_iff artists

end Account

end Service

/-! ## Keeping a play back -/

namespace Dispatcher

variable {ω : Type} [Host ω] {clients : List (Client ω)} {client : Client ω}
  {start d : Dispatcher ω} {history : String → List Turn} {bound : Int} {host : ω} {r : Play}

/-- **Priming recalls what a client has.** -/
theorem Run.exists_recalled (run : Run clients start history d)
    (hnames : (clients.map Client.name).Nodup) (hclient : client ∈ clients)
    (htells : ∀ client ∈ clients, ∀ w, Tells client w)
    (hhas : ∀ w, ∃ plays w', client.recent w = .ok plays w' ∧ r ∈ plays) :
    ∃ history' d', prime clients d = .ok () d' ∧ Run clients start history' d'
      ∧ .recalled r ∈ deeds (history' client.name) := by
  obtain ⟨units, history', d', hall, run', hprimed, -⟩ :=
    run.exists_primed (fun _ h => h) hnames htells
  refine ⟨history', d', prime_eq_ok hall, run', ?_⟩
  cases hprimed client hclient with
  | @silent e w w' failed same =>
    obtain ⟨plays, w'', htold, -⟩ := hhas w
    exact nomatch (Step.mk.inj (failed.symm.trans htold)).1
  | @told plays sorted w w' told inOrder added =>
    obtain ⟨plays', w'', htold, hr⟩ := hhas w
    obtain rfl := Except.ok.inj (Step.mk.inj (told.symm.trans htold)).1
    have hsorted : r ∈ sorted := (Play.pairwise_of_sort? inOrder).1.mem_iff.mpr hr
    rw [added, deeds_concat]
    exact List.mem_append_right _ (List.mem_map_of_mem hsorted)

/-- **What is recalled keeps back** what is one listen with it, until as many
others were added as the window holds. -/
theorem Run.le_additions_of_recalled (run : Run clients start history d)
    (hnames : (clients.map Client.name).Nodup) (hbound : 1 ≤ bound)
    (hstart : ofClients? clients bound host = .ok start) (hclient : client ∈ clients)
    {before between after : List Deed} {c : Claim}
    (hdeeds : deeds (history client.name)
      = before ++ .recalled r :: (between ++ .claimed c :: after))
    (hsame : Match.sameListen? r c.play = .ok true) : bound.toNat ≤ Deed.additions between := by
  have horderly := (run.kept hnames (kept_start (by omega) hstart)).orderly client hclient
  rcases horderly.apart (by omega) (c := ⟨r, none⟩) rfl hdeeds (Or.inl rfl) hsame with
    hfull | ⟨hclaimed, -⟩
  · exact hfull
  · exact nomatch hclaimed

end Dispatcher

namespace Service

variable {ω : Type} [Host ω] [Service ω]

/-- Whether a track is on the list of an account, whenever it is asked for,
and all of the list makes sense. -/
def Account.Lists (a : Account) (t : Track) (ω : Type) [Service ω] : Prop :=
  ∀ w : ω, ∃ tracks plays w', Service.recent a.listed Client.asked w = .ok tracks w' ∧ t ∈ tracks
    ∧ a.plays? tracks = .ok plays

/-- What the account has is what its list stands for. -/
theorem Account.client_recent_eq {a : Account} {tracks : List Track}
    {plays : List Play} {w w' : ω}
    (hrecent : Service.recent a.listed Client.asked w = .ok tracks w')
    (hplays : a.plays? tracks = .ok plays) : a.client.recent w = .ok plays w' := by
  show (orRefused (Service.recent a.listed Client.asked w)).andThen _ = _
  rw [hrecent]
  show Step.of (a.plays? tracks) w' = _
  rw [hplays]
  rfl

/-- An account has the play that a track of its list stands for. -/
theorem Account.Lists.exists_recent {a : Account} {t : Track} (h : a.Lists t ω) {r : Play}
    (hr : t.play? a.name a.user = .ok r) (w : ω) :
    ∃ plays w', a.client.recent w = .ok plays w' ∧ r ∈ plays := by
  obtain ⟨tracks, plays, w', hrecent, ht, hplays⟩ := h w
  exact ⟨plays, w', a.client_recent_eq hrecent hplays, mem_of_mapM_eq_ok hplays ht hr⟩

/-- **How a dispatcher keeps a play back** from an account on whose list there
is a track that stands for another one. -/
structure Account.KeepsBack (a : Account) (clients : List (Client ω)) (start : Dispatcher ω)
    (size : Nat) (t : Track) (r p : Play) : Prop where
  /-- When it asks the clients what they have, it recalls what the track stands
  for. -/
  recalled : ∀ history d, Dispatcher.Run clients start history d →
    (∀ client ∈ clients, ∀ w, Dispatcher.Tells client w) → a.Lists t ω →
    ∃ history' d', Dispatcher.prime clients d = .ok () d'
      ∧ Dispatcher.Run clients start history' d'
      ∧ .recalled r ∈ Dispatcher.deeds (history' a.name)
  /-- From then on it does not claim the play, until as many others were added
  to the window as it holds. -/
  keptBack : ∀ history d, Dispatcher.Run clients start history d →
    ∀ before between after c, Dispatcher.deeds (history a.name)
        = before ++ .recalled r :: (between ++ .claimed c :: after) →
      c.play = p → size ≤ Dispatcher.Deed.additions between

/-- **The play that comes back is one listen with the one that was submitted** if
and only if at most one artist has a normal form and the time of the track is
not lost. Then a dispatcher keeps the play back from the account. -/
theorem Account.knows_again_iff {p : Play} (hp : p.Typed) {played : Instant}
    (hplayed : p.playedAt = some played) (hoffset : played.offset.isSome = true) {now : Instant}
    {s : Submission} (hs : Submission.ofPlay? p now = .ok s) {t : Track} (ht : t.Echoes s)
    (a : Account) :
    ((∃ r, t.play? a.name a.user = .ok r ∧ Match.sameListen? r p = .ok true)
      ↔ p.artistNames.length ≤ 1 ∧ t.timestamp.truthy = true ∧ Instant.InCalendar s.timestamp)
    ∧ ∀ r, t.play? a.name a.user = .ok r → Match.sameListen? r p = .ok true →
      ∀ (ω : Type) [Host ω] [Service ω] (clients : List (Client ω)) (bound : Int) (host : ω)
        (start : Dispatcher ω), a.client ∈ clients →
        (clients.map Client.name).Nodup → 1 ≤ bound →
        Dispatcher.ofClients? clients bound host = .ok start →
        a.KeepsBack clients start bound.toNat t r p := by
  obtain ⟨artists, hartists⟩ := hp.exists_artists
  obtain ⟨htitle, halbum, hartist, hseconds⟩ := Submission.of_ofPlay? hartists hs
  rw [hplayed, Option.getD_some] at hseconds
  have hplay := ht.play?_eq hp htitle halbum a
  rw [hartist] at hplay
  refine ⟨⟨?_, ?_⟩, fun r hr hsame ω _ _ clients bound host start hclient hnames hbound hstart =>
    ⟨fun history d run htells hlists => ?_,
      fun history d run before between after c hdeeds hc => ?_⟩⟩
  · -- a timestamp that cannot be read makes no play, and a play without a time is like no other
    rintro ⟨r, hr, hsame⟩
    cases hread : t.playedAt? with
    | error e => rw [hplay, hread] at hr; exact nomatch hr
    | ok playedAt =>
      rw [hplay, hread] at hr
      obtain rfl := Except.ok.inj hr
      obtain ⟨second, hsecond⟩ :=
        Option.isSome_iff_exists.mp (Match.isSome_playedAt_of_sameListen? hsame)
      obtain rfl : playedAt = some second := hsecond
      obtain ⟨htruthy, hcalendar, -⟩ := ht.playedAt?_eq_some_iff.mp hread
      exact ⟨(a.content?_returned hp hartists).mp (Match.content?_of_sameListen? hsame), htruthy,
        hcalendar⟩
  · -- what is lost of the time is at most a second, and times so near line up exactly
    rintro ⟨hnames, htruthy, hcalendar⟩
    have hread := ht.playedAt?_eq_some_iff.mpr ⟨htruthy, hcalendar, rfl⟩
    refine ⟨_, hplay.trans (congrArg (Except.map _) hread), ?_⟩
    exact Match.sameListen?_of_near (a.typed_returned hp)
      ((a.content?_returned hp hartists).mpr hnames) rfl hplayed
      (Instant.comparable_of_isSome rfl hoffset) (Instant.near_of_unixSeconds? hseconds)
  · exact run.exists_recalled hnames hclient htells fun w => hlists.exists_recent hr w
  · exact run.le_additions_of_recalled hnames hbound hstart hclient hdeeds (hc ▸ hsame)

/-! ## One artist and two -/

/-- A play of a hymn, one second and a half after the epoch. -/
def hymn (artists : List String) : Play where
  title := .text "Hymn"
  artists := artists.map .text
  playedAt := some ⟨1500000, some 0⟩

/-- The track that comes back of it. -/
def hymnTrack (credit : String) : Track where
  title := .str "Hymn"
  artist := .str credit
  timestamp := .str "1"

/-- The play that comes back. -/
def hymnReturned (credit : String) : Play :=
  Account.returned {} (hymn [credit]) credit (some ⟨Instant.second, some 0⟩)

theorem typed_hymn (artists : List String) : (hymn artists).Typed := by
  refine ⟨rfl, fun name hname => ?_, rfl, rfl, rfl, rfl⟩
  obtain ⟨s, -, rfl⟩ := List.mem_map.mp hname
  rfl

theorem ofPlay?_hymn (artists : List String) (now : Instant) :
    Submission.ofPlay? (hymn artists) now
      = .ok ⟨Text.creditOf artists, .text "Hymn", 1, .absent, none⟩ := by
  have hseconds : (⟨1500000, some 0⟩ : Instant).unixSeconds? = .ok 1 := rfl
  unfold Submission.ofPlay?
  rw [Play.credit?_of_texts rfl,
    show ((hymn artists).playedAt.getD now) = ⟨1500000, some 0⟩ from rfl,
    hseconds]
  rfl

theorem echoes_hymn (credit : String) :
    (hymnTrack credit).Echoes ⟨credit, .text "Hymn", 1, .absent, none⟩ :=
  ⟨rfl, rfl, rfl, Or.inl rfl⟩

theorem play?_hymnTrack (credit : String) :
    (hymnTrack credit).play? "lastfm" none = .ok (hymnReturned credit) := by
  have hread := (echoes_hymn credit).playedAt?_eq_some_iff.mpr
    ⟨rfl, show Instant.InCalendar 1 by decide, rfl⟩
  rw [(echoes_hymn credit).play?_eq (typed_hymn [credit]) rfl rfl {}, hread]
  rfl

/-- The service on a host on which nothing happens: it always has one hymn of
one artist. -/
instance : Service Dispatcher.Outage where
  login _ w := .ok () w
  recent _ _ w := .ok [hymnTrack "Choir"] w
  submit _ w := .ok () w

/-- A dispatcher for the account that is logged in. -/
def forAccount : Dispatcher Dispatcher.Outage where
  windows := [("lastfm", { size := 50 })]
  host := ⟨0⟩

theorem entry_hymnReturned (credit : String) : (hymnReturned credit).Entry :=
  ⟨Account.typed_returned {} (typed_hymn [credit]), ⟨_, rfl, rfl⟩,
    fun _ h => absurd h List.not_mem_nil, rfl⟩

theorem plays?_hymnTrack :
    Account.plays? {} [hymnTrack "Choir"] = .ok [hymnReturned "Choir"] := by
  unfold Account.plays?
  rw [List.mapM_cons, play?_hymnTrack]
  rfl

theorem lists_hymnTrack : Account.Lists {} (hymnTrack "Choir") Dispatcher.Outage :=
  fun w => ⟨_, _, w, rfl, List.mem_cons_self, plays?_hymnTrack⟩

/-- A hymn of one artist is known again, and kept back. -/
theorem knows_again_hymn :
    Match.sameListen? (hymnReturned "Choir") (hymn ["Choir"]) = .ok true
      ∧ ∃ history d, Dispatcher.prime [Account.client {}] forAccount = .ok () d
        ∧ Dispatcher.Run [Account.client {}] forAccount history d
        ∧ .recalled (hymnReturned "Choir") ∈ Dispatcher.deeds (history "lastfm") := by
  obtain ⟨hiff, hkeeps⟩ := Account.knows_again_iff (typed_hymn ["Choir"]) rfl rfl
    (ofPlay?_hymn ["Choir"] Instant.epoch) (echoes_hymn "Choir") {}
  obtain ⟨r, hr, hsame⟩ := hiff.mpr ⟨by decide, rfl, by decide⟩
  obtain rfl := Except.ok.inj ((play?_hymnTrack "Choir").symm.trans hr)
  refine ⟨hsame, (hkeeps _ hr hsame Dispatcher.Outage [Account.client {}] 50 ⟨0⟩ forAccount
    List.mem_cons_self (List.nodup_singleton _) (by decide) rfl).recalled _ forAccount .start
    (fun client hclient w => ?_) lists_hymnTrack⟩
  obtain rfl := List.mem_singleton.mp hclient
  exact Or.inl ⟨_, w, Account.client_recent_eq rfl plays?_hymnTrack,
    List.forall_mem_singleton.mpr (entry_hymnReturned "Choir")⟩

/-- **A play of two artists is not known again**: their credit is one
artist. -/
theorem not_forall_known_again : ¬ ∀ (p : Play), p.Typed → ∀ played, p.playedAt = some played →
    played.offset.isSome = true → ∀ now s, Submission.ofPlay? p now = .ok s →
    ∀ t : Track, t.Echoes s → ∀ a : Account,
      ∃ r, t.play? a.name a.user = .ok r ∧ Match.sameListen? r p = .ok true := by
  intro hall
  obtain ⟨r, hr, hsame⟩ :=
    hall (hymn ["Choir", "Organ"]) (typed_hymn _) _ rfl rfl Instant.epoch _
    (ofPlay?_hymn _ _) (hymnTrack "Choir, Organ") (echoes_hymn _) {}
  obtain rfl := Except.ok.inj ((play?_hymnTrack _).symm.trans hr)
  have hnot :
      (Match.sameListen? (hymnReturned "Choir, Organ") (hymn ["Choir", "Organ"])).toOption
      = some false := by decide +kernel
  rw [hsame] at hnot
  exact nomatch hnot

end Service

end Listening
