import Listening.Proofs.ClientRounds

/-!
# Claiming and submitting

A dispatch claims all plays of a batch for all clients and then submits what
was claimed, one after the other. This module says what each of the two does.
Claiming does not touch the host; for each client it admits plays into the
window, in the order of the batch (`Claims`). Submitting is a row of
deliveries (`Deliveries`): the client is given the play, and what it does is
told – a play that it took on the console, one that it refused as a notice –
before the next one is given away; a refusal also releases an entry of the
window.

Claiming does not fail if the plays are entries and the clients can handle them:
whether a play is their own has an answer, and a play that they do not take they
refuse. Then submitting can break off in one way only, at a play that was taken
and cannot be printed (`exists_deliveries`); where what is said of plays is plain
(`Client.SaysPlainly`), it does not. What either has done if it returned is
said for any plays (`claims_of_forEach`, `submits_of_forEach`).
-/

namespace Listening

namespace Client

variable {ω : Type}

/-- Whether what is said of a play that a client took is plain. -/
def SaysPlainly (client : Client ω) (p : Play) : Prop :=
  ∀ line, client.receipt? p = .ok line → Console.isPlain line = true

instance (client : Client ω) (p : Play) : Decidable (client.SaysPlainly p) :=
  decidableForallOk (client.receipt? p) fun line => Console.isPlain line = true

/-- Of an entry that a client took something can be said. -/
theorem exists_receipt? (client : Client ω) {p : Play} (hp : p.Entry) :
    ∃ line, client.receipt? p = .ok line := by
  obtain ⟨line, hline⟩ := hp.exists_describe?
  unfold receipt?
  rw [hline]
  exact ⟨_, rfl⟩

end Client

namespace Dispatcher

variable {ω : Type} {clients : List (Client ω)} {d d' : Dispatcher ω}

/-! ## Windows by name -/

/-- What the windows are after one of them was changed. -/
theorem lookup_change (name n : String) (f : Window Claim → Window Claim) (d : Dispatcher ω) :
    (d.change name f).windows.lookup n
      = (d.windows.lookup n).map fun w => if n = name then f w else w := by
  unfold change
  induction d.windows with
  | nil => rfl
  | cons entry rest ih =>
    obtain ⟨k, w⟩ := entry
    by_cases hn : n = k
    · subst hn
      by_cases hk : n = name <;> simp [hk]
    · have hne : (n == k) = false := beq_false_of_ne hn
      by_cases hk : k = name
      · simpa [List.lookup_cons, hk, hk ▸ hne] using ih
      · simpa [List.lookup_cons, hk, hne] using ih

/-- The windows do not depend on the host. -/
theorem windows_on (d : Dispatcher ω) (w : ω) : (d.on w).windows = d.windows := rfl

/-- What is in a window that there is. -/
theorem claims_of_lookup {name : String} {w : Window Claim}
    (h : d.windows.lookup name = some w) : d.claims name = w.items := by
  unfold claims
  rw [h]

/-- **A dispatcher that knows its clients**: each of them has a window, and
the windows hold entries. -/
def Knows (clients : List (Client ω)) (d : Dispatcher ω) : Prop :=
  ∀ client ∈ clients, ∃ w, d.windows.lookup client.name = some w ∧ ∀ e ∈ w.items, e.play.Entry

/-- A dispatcher still knows its clients when a window gets another entry. -/
theorem Knows.push (h : Knows clients d) (name : String) {c : Claim} (hc : c.play.Entry) :
    Knows clients (d.change name (Window.push c)) := by
  intro client hclient
  obtain ⟨w, hw, hentries⟩ := h client hclient
  rw [lookup_change, hw]
  by_cases hname : client.name = name
  · refine ⟨w.push c, congrArg some (if_pos hname), fun e he => ?_⟩
    rcases Window.mem_of_mem_push he with he | rfl
    · exact hentries e he
    · exact hc
  · exact ⟨w, congrArg some (if_neg hname), hentries⟩

/-- **Whether a client can handle a play**: it can tell whether the play is its
own, and it takes or refuses it. -/
structure Handles (client : Client ω) (p : Play) : Prop where
  /-- Whether the play is its own has an answer. -/
  own : ∃ own, client.isOwn p = .ok own
  /-- It takes the play, or it refuses it. -/
  submit : ∀ w, (client.submit p w).result = .ok ()
    ∨ ∃ refusal reason, (client.submit p w).result = .error (.refused refusal reason)

/-! ## Claiming -/

/-- **What claiming a play has done**, if it returned: nothing, and the play is
the client's own or one listen with an entry of its window; or it is neither,
and the claim was added. -/
theorem claim_eq_ok {c : Claim} {client : Client ω} {answer : Option (Claim × Client ω)}
    (h : claim (c, client) d = .ok answer d') :
    answer = none ∧ d' = d ∧ (client.isOwn c.play = .ok true
        ∨ ∃ e ∈ d.claims client.name, Match.sameListen? e.play c.play = .ok true)
      ∨ answer = some (c, client) ∧ d' = d.change client.name (Window.push c)
        ∧ client.isOwn c.play = .ok false
        ∧ ∀ e ∈ d.claims client.name, Match.sameListen? e.play c.play = .ok false := by
  have hdescribed : ∀ {s : Dispatcher ω}, (Step.of c.play.describe? s).andThen
      (fun _ s => .ok none s) = .ok answer d' → answer = none ∧ d' = s := by
    intro s h
    obtain ⟨_, s', hline, hlast⟩ := Step.exists_of_andThen_eq_ok h
    obtain ⟨-, rfl⟩ := Step.of_eq_ok hline
    obtain ⟨hnone, rfl⟩ := Step.ok_inj hlast
    exact ⟨hnone.symm, rfl⟩
  unfold claim at h
  obtain ⟨own, s, hasked, hnext⟩ := Step.exists_of_andThen_eq_ok h
  obtain ⟨hown, rfl⟩ := Step.of_eq_ok hasked
  cases own with
  | true =>
    obtain ⟨rfl, rfl⟩ := hdescribed hnext
    exact Or.inl ⟨rfl, rfl, Or.inl hown⟩
  | false =>
    rw [if_neg Bool.false_ne_true] at hnext
    obtain ⟨existing, s, hlooked, hlast⟩ := Step.exists_of_andThen_eq_ok hnext
    obtain ⟨hexisting, rfl⟩ := Step.of_eq_ok hlooked
    cases existing with
    | some known =>
      obtain ⟨rfl, rfl⟩ := hdescribed hlast
      obtain ⟨hmem, hsame⟩ := Match.sameListen?_of_lastSame?_eq_some hexisting
      obtain ⟨e, he, rfl⟩ := List.mem_map.mp hmem
      exact Or.inl ⟨rfl, rfl, Or.inr ⟨e, he, hsame⟩⟩
    | none =>
      obtain ⟨rfl, rfl⟩ := Step.ok_inj hlast
      refine Or.inr ⟨rfl, rfl, hown, fun e he => ?_⟩
      exact Match.sameListen?_of_lastSame?_eq_none hexisting e.play (List.mem_map_of_mem he)

/-- **Entries can be claimed** for a client of which the dispatcher knows. -/
theorem exists_claim {c : Claim} {client : Client ω} (hc : c.play.Entry)
    (hown : ∃ own, client.isOwn c.play = .ok own) {w : Window Claim}
    (hw : d.windows.lookup client.name = some w) (hentries : ∀ e ∈ w.items, e.play.Entry) :
    ∃ answer d', claim (c, client) d = .ok answer d' := by
  obtain ⟨line, hline⟩ := hc.exists_describe?
  obtain ⟨own, hown⟩ := hown
  obtain ⟨existing, hexisting⟩ : ∃ existing, d.existing? client.name c.play = .ok existing := by
    have hplays : ∀ known ∈ w.items.map (·.play), known.Entry := fun known hknown => by
      obtain ⟨e, he, rfl⟩ := List.mem_map.mp hknown
      exact hentries e he
    unfold existing?
    rw [claims_of_lookup hw]
    rcases Match.lastSame?_of_entries hc hplays with ⟨hnone, -⟩ | ⟨known, -, hfound, -⟩
    · exact ⟨_, hnone⟩
    · exact ⟨_, hfound⟩
  unfold claim
  dsimp only
  rw [hown, Step.of_ok, Step.andThen_ok]
  cases own with
  | true =>
    rw [if_pos rfl, hline]
    exact ⟨_, _, rfl⟩
  | false =>
    rw [if_neg Bool.false_ne_true, hexisting, Step.of_ok, Step.andThen_ok]
    cases existing with
    | some known =>
      rw [hline]
      exact ⟨_, _, rfl⟩
    | none => exact ⟨_, _, rfl⟩

/-- What is claimed for the client of a name. -/
def claimsFor (name : String) (pending : List (Claim × Client ω)) : List Claim :=
  pending.filterMap fun (c, client) => if client.name = name then some c else none

theorem claimsFor_cons (name : String) (c : Claim) (client : Client ω)
    (pending : List (Claim × Client ω)) :
    claimsFor name ((c, client) :: pending)
      = if client.name = name then c :: claimsFor name pending else claimsFor name pending := by
  by_cases hname : client.name = name <;> simp [claimsFor, hname]

/-- **What claiming a row of plays does**, each for some client: to a
dispatcher, with what is claimed, it leaves another one. -/
structure Claims (d : Dispatcher ω) (pairs pending : List (Claim × Client ω))
    (d' : Dispatcher ω) : Prop where
  /-- The host is the same. -/
  host : d'.host = d.host
  /-- So is the next ticket. -/
  next : d'.next = d.next
  /-- What is claimed is part of the row, in its order. -/
  part : pending.Sublist pairs
  /-- None of it is the client's own. -/
  notOwn : ∀ pair ∈ pending, pair.2.isOwn pair.1.play = .ok false
  /-- It is admitted to the windows. -/
  window : ∀ name w, d.windows.lookup name = some w →
    d'.windows.lookup name
        = some (Deed.applyAll w ((claimsFor name pending).map .claimed))
      ∧ Admits w (claimsFor name pending)

/-- Where nothing is claimed, nothing changes. -/
theorem Claims.skip {pair : Claim × Client ω} {pairs pending : List (Claim × Client ω)}
    (h : Claims d pairs pending d') : Claims d (pair :: pairs) pending d' :=
  ⟨h.host, h.next, h.part.cons pair, h.notOwn, h.window⟩

/-- A claim is the first of those that are made from then on. -/
theorem Claims.cons {c : Claim} {client : Client ω} {pairs pending : List (Claim × Client ω)}
    (h : Claims (d.change client.name (Window.push c)) pairs pending d')
    (hown : client.isOwn c.play = .ok false)
    (hnew : ∀ w, d.windows.lookup client.name = some w →
      ∀ e ∈ w.items, Match.sameListen? e.play c.play = .ok false) :
    Claims d ((c, client) :: pairs) ((c, client) :: pending) d' := by
  refine ⟨h.host, h.next, h.part.cons_cons _, List.forall_mem_cons.mpr ⟨hown, h.notOwn⟩,
    fun name w hw => ?_⟩
  have hlater := h.window name
  rw [lookup_change, hw] at hlater
  by_cases hname : client.name = name
  · subst hname
    obtain ⟨hlookup, hadmits⟩ := hlater (w.push c) (congrArg some (if_pos rfl))
    rw [claimsFor_cons, if_pos rfl]
    exact ⟨hlookup, hnew w hw, hadmits⟩
  · rw [claimsFor_cons, if_neg hname]
    exact hlater w (congrArg some (if_neg fun e => hname e.symm))

/-- Claiming a row of plays has made claims, if it returned. -/
theorem claims_of_forEach {pairs : List (Claim × Client ω)}
    {answers : List (Option (Claim × Client ω))}
    (h : Step.forEach claim pairs d = .ok answers d') :
    Claims d pairs (answers.filterMap id) d' := by
  induction pairs generalizing d answers with
  | nil =>
    obtain ⟨rfl, rfl⟩ := Step.ok_inj h
    exact ⟨rfl, rfl, List.Sublist.refl _, fun _ h => absurd h List.not_mem_nil,
      fun _ _ hw => ⟨hw, trivial⟩⟩
  | cons pair rest ih =>
    obtain ⟨c, client⟩ := pair
    obtain ⟨answer, d₁, answers₁, hfirst, hrest, rfl⟩ := Step.exists_of_forEach_cons_eq_ok h
    rcases claim_eq_ok hfirst with ⟨rfl, rfl, -⟩ | ⟨rfl, rfl, hown, hnew⟩
    · exact (ih hrest).skip
    · exact (ih hrest).cons hown fun w hw e he => hnew e (by rwa [claims_of_lookup hw])

/-- **Claiming a row of plays** never fails. -/
theorem exists_claims {pairs : List (Claim × Client ω)}
    (hpairs : ∀ pair ∈ pairs, pair.2 ∈ clients ∧ pair.1.play.Entry
      ∧ ∃ own, pair.2.isOwn pair.1.play = .ok own) (hd : Knows clients d) :
    ∃ answers d', Step.forEach claim pairs d = .ok answers d'
      ∧ Claims d pairs (answers.filterMap id) d' := by
  have hstep : ∀ pair ∈ pairs, ∀ s, Knows clients s →
      ∃ answer s', claim pair s = .ok answer s' ∧ Knows clients s' := by
    intro (c, client) hpair s hs
    obtain ⟨hclient, hc, hown⟩ := hpairs _ hpair
    obtain ⟨w, hw, hentries⟩ := hs client hclient
    obtain ⟨answer, s', hclaimed⟩ := exists_claim hc hown hw hentries
    refine ⟨answer, s', hclaimed, ?_⟩
    rcases claim_eq_ok hclaimed with ⟨-, rfl, -⟩ | ⟨-, rfl, -, -⟩
    · exact hs
    · exact hs.push client.name hc
  obtain ⟨answers, d', hanswers, -⟩ := Step.exists_forEach (Knows clients) hstep hd
  exact ⟨answers, d', hanswers, claims_of_forEach hanswers⟩

/-! ## Submitting -/

variable [Host ω]

/-- What whoever runs the program is told of a play that a client refused. -/
def refusalNotice (line name : String) (refusal : Refusal) (reason : String) : Notice where
  level := "ERROR"
  title := "Scrobble failed"
  message := line ++ " could not be scrobbled to " ++ name ++ ": " ++ reason
  extra := [("client", .str name), ("error", .str refusal.name)]

/-- **What submitting claims does to a host**, with what was taken: one after the
other, the client is given the play, and what it does is told. The row breaks off
at a play that was taken and cannot be printed. -/
inductive Deliveries :
    List (Claim × Client ω) → ω → List Bool → Except Fault Unit → ω → Prop where
  /-- There is nothing to submit. -/
  | nothing (w : ω) : Deliveries [] w [] (.ok ()) w
  /-- The first play is taken. -/
  | taken {c : Claim} {client : Client ω} {rest : List (Claim × Client ω)} {w w' w'' w₁ : ω}
      {line : String} {taken : List Bool} {result : Except Fault Unit}
      (said : client.receipt? c.play = .ok line) (submitted : client.submit c.play w = .ok () w')
      (printed : Host.tell line "INFO" w' = .ok () w₁)
      (others : Deliveries rest w₁ taken result w'') :
      Deliveries ((c, client) :: rest) w (true :: taken) result w''
  /-- The first play is refused. -/
  | refused {c : Claim} {client : Client ω} {rest : List (Claim × Client ω)} {w w' w'' : ω}
      {line : String} {taken : List Bool} {result : Except Fault Unit} {refusal : Refusal}
      {reason : String} (described : c.play.describe? = .ok line)
      (submitted : client.submit c.play w = .fail (.refused refusal reason) w')
      (others : Deliveries rest
        (Host.notify (refusalNotice line client.name refusal reason) w') taken result w'') :
      Deliveries ((c, client) :: rest) w (false :: taken) result w''
  /-- The first play is taken, but this cannot be printed. -/
  | unprinted {c : Claim} {client : Client ω} {rest : List (Claim × Client ω)} {w w' w'' : ω}
      {line : String} {e : Fault} (said : client.receipt? c.play = .ok line)
      (submitted : client.submit c.play w = .ok () w')
      (unprinted : Host.tell line "INFO" w' = .fail e w'') :
      Deliveries ((c, client) :: rest) w [true] (.error e) w''

/-- A play that is taken is printed. -/
theorem submit_of_taken {c : Claim} {client : Client ω} {line : String} {w : ω}
    (hline : client.receipt? c.play = .ok line)
    (hsubmitted : client.submit c.play d.host = .ok () w) :
    submit (c, client) d
      = ⟨(Host.tell line "INFO" w).result.map fun _ => true,
        d.on (Host.tell line "INFO" w).state⟩ := by
  unfold submit
  simp only [hsubmitted, hline, Step.within, Step.result_ok, Step.state_ok, Step.of_ok,
    Step.andThen_ok]
  show Step.andThen ((Host.tell line "INFO" w).within d.on) _ = _
  generalize Host.tell line "INFO" w = printed
  obtain ⟨result, w'⟩ := printed
  cases result <;> rfl

/-- A play that is refused is forgotten, and this is noted. -/
theorem submit_of_refused {c : Claim} {client : Client ω} {line : String} {refusal : Refusal}
    {reason : String} {w : ω} (hline : c.play.describe? = .ok line)
    (hsubmitted : client.submit c.play d.host = .fail (.refused refusal reason) w) :
    submit (c, client) d = .ok false ((d.change client.name (forget c)).on
      (Host.notify (refusalNotice line client.name refusal reason) w)) := by
  unfold submit report
  simp only [hsubmitted, hline, Step.within, Step.fail, Step.of_ok, Step.andThen_ok]
  rfl

/-- **What submitting a claim has done**, if it returned: the client took the
play and this was printed, or it refused it and the claim was forgotten. -/
theorem submit_eq_ok {c : Claim} {client : Client ω} {taken : Bool}
    (h : submit (c, client) d = .ok taken d') :
    (∃ line host host', taken = true ∧ client.receipt? c.play = .ok line
        ∧ client.submit c.play d.host = .ok () host ∧ Host.tell line "INFO" host = .ok () host'
        ∧ d' = d.on host')
      ∨ ∃ line host refusal reason, taken = false ∧ c.play.describe? = .ok line
        ∧ client.submit c.play d.host = .fail (.refused refusal reason) host
        ∧ d' = (d.change client.name (forget c)).on
          (Host.notify (refusalNotice line client.name refusal reason) host) := by
  cases hsubmitted : client.submit c.play d.host with
  | mk result host =>
  cases result with
  | ok u =>
    cases hline : client.receipt? c.play with
    | error e =>
      unfold submit at h
      simp only [hsubmitted, hline, Step.within] at h
      exact absurd h Step.fail_ne_ok
    | ok line =>
      rw [submit_of_taken hline hsubmitted] at h
      cases hprinted : Host.tell line "INFO" host with
      | mk printed host' =>
      rw [hprinted] at h
      cases printed with
      | error e => exact absurd h Step.fail_ne_ok
      | ok u =>
        obtain ⟨rfl, rfl⟩ := Step.ok_inj h
        exact Or.inl ⟨line, host, host', rfl, rfl, rfl, hprinted, rfl⟩
  | error e =>
    unfold submit at h
    simp only [hsubmitted, Step.within] at h
    split at h
    · rename_i htaken
      cases htaken
    · rename_i refusal reason hrefused
      obtain rfl := Except.error.inj hrefused
      unfold report at h
      obtain ⟨_, s, hreport, hlast⟩ := Step.exists_of_andThen_eq_ok h
      obtain ⟨line, s', hline, htold⟩ := Step.exists_of_andThen_eq_ok hreport
      obtain ⟨hdescribed, rfl⟩ := Step.of_eq_ok hline
      obtain ⟨-, rfl⟩ := Step.ok_inj htold
      obtain ⟨rfl, rfl⟩ := Step.ok_inj hlast
      exact Or.inr ⟨line, host, refusal, reason, rfl, hdescribed, rfl, rfl⟩
    · exact absurd h Step.fail_ne_ok

/-- What comes of the claims for the client of a name. -/
def outcomesFor (name : String) (pending : List (Claim × Client ω)) (taken : List Bool) :
    List (Claim × Bool) :=
  (pending.zip taken).filterMap fun ((c, client), taken) =>
    if client.name = name then some (c, taken) else none

omit [Host ω] in
theorem outcomesFor_nil (name : String) (pending : List (Claim × Client ω)) :
    outcomesFor name pending [] = [] := by
  unfold outcomesFor
  rw [List.zip_nil_right, List.filterMap_nil]

omit [Host ω] in
theorem outcomesFor_cons (name : String) (c : Claim) (client : Client ω)
    (pending : List (Claim × Client ω)) (b : Bool) (taken : List Bool) :
    outcomesFor name ((c, client) :: pending) (b :: taken)
      = if client.name = name then (c, b) :: outcomesFor name pending taken
        else outcomesFor name pending taken := by
  by_cases hname : client.name = name <;> simp [outcomesFor, hname]

omit [Host ω] in
/-- Whether it was taken is one of the answers. -/
theorem taken_of_mem_outcomesFor {name : String} {pending : List (Claim × Client ω)}
    {taken : List Bool} {o : Claim × Bool} (h : o ∈ outcomesFor name pending taken) :
    o.2 ∈ taken := by
  obtain ⟨⟨⟨c, client⟩, b⟩, hmem, hsome⟩ := List.mem_filterMap.mp h
  by_cases hname : client.name = name
  · obtain rfl := Option.some.inj ((if_pos hname).symm.trans hsome)
    exact (List.of_mem_zip hmem).2
  · exact nomatch (if_neg hname).symm.trans hsome

omit [Host ω] in
/-- The outcomes for a name are those of the first claims that were made for it.
-/
theorem isPrefix_map_outcomesFor (name : String) (pending : List (Claim × Client ω))
    (taken : List Bool) :
    (outcomesFor name pending taken).map (·.1) <+: claimsFor name pending := by
  induction pending generalizing taken with
  | nil => exact List.prefix_refl _
  | cons pair rest ih =>
    cases taken with
    | nil => exact List.nil_prefix
    | cons b taken =>
      rw [outcomesFor_cons, claimsFor_cons]
      by_cases hname : pair.2.name = name
      · rw [if_pos hname, if_pos hname, List.map_cons]
        exact List.cons_prefix_cons.mpr ⟨rfl, ih taken⟩
      · rw [if_neg hname, if_neg hname]
        exact ih taken

omit [Host ω] in
/-- The outcomes for a name are those of all claims made for it, if something
came of each. -/
theorem map_outcomesFor (name : String) {pending : List (Claim × Client ω)} {taken : List Bool}
    (h : pending.length ≤ taken.length) :
    (outcomesFor name pending taken).map (·.1) = claimsFor name pending := by
  induction pending generalizing taken with
  | nil => rfl
  | cons pair rest ih =>
    cases taken with
    | nil => exact absurd h (Nat.not_succ_le_zero _)
    | cons b taken =>
      rw [outcomesFor_cons, claimsFor_cons, ← ih (Nat.le_of_succ_le_succ h)]
      exact apply_ite (List.map _) ..

/-- **What submitting claims does** to a dispatcher: with what was taken, it
leaves another one. -/
structure Submits (d : Dispatcher ω) (pending : List (Claim × Client ω)) (taken : List Bool)
    (result : Except Fault Unit) (d' : Dispatcher ω) : Prop where
  /-- Something comes of every claim, if the row does not break off. -/
  length : result = .ok () → taken.length = pending.length
  /-- The next ticket is the same. -/
  next : d'.next = d.next
  /-- In the windows, what was refused is released. -/
  window : ∀ name w, d.windows.lookup name = some w →
    d'.windows.lookup name
      = some (Deed.applyAll w ((outcomesFor name pending taken).map Deed.ofOutcome))
  /-- The claims are delivered. -/
  deliveries : Deliveries pending d.host taken result d'.host

/-- A claim that is taken is the first of those that are submitted. -/
theorem Submits.taken {c : Claim} {client : Client ω} {pending : List (Claim × Client ω)}
    {taken : List Bool} {result : Except Fault Unit} {line : String} {w w₁ : ω}
    (h : Submits (d.on w₁) pending taken result d') (hline : client.receipt? c.play = .ok line)
    (hsubmitted : client.submit c.play d.host = .ok () w)
    (hprinted : Host.tell line "INFO" w = .ok () w₁) :
    Submits d ((c, client) :: pending) (true :: taken) result d' := by
  refine ⟨fun hok => congrArg (· + 1) (h.length hok), h.next, fun name w' hw' => ?_,
    .taken hline hsubmitted hprinted h.deliveries⟩
  rw [h.window name w' hw', outcomesFor_cons]
  by_cases hname : client.name = name
  · rw [if_pos hname]
    rfl
  · rw [if_neg hname]

/-- A claim that is refused is the first of them, too. -/
theorem Submits.refused {c : Claim} {client : Client ω} {pending : List (Claim × Client ω)}
    {taken : List Bool} {result : Except Fault Unit} {line : String} {refusal : Refusal}
    {reason : String} {w : ω} (h : Submits ((d.change client.name (forget c)).on
      (Host.notify (refusalNotice line client.name refusal reason) w)) pending taken result d')
    (hline : c.play.describe? = .ok line)
    (hsubmitted : client.submit c.play d.host = .fail (.refused refusal reason) w) :
    Submits d ((c, client) :: pending) (false :: taken) result d' := by
  refine ⟨fun hok => congrArg (· + 1) (h.length hok), h.next, fun name w' hw' => ?_,
    .refused hline hsubmitted h.deliveries⟩
  have hlater := h.window name
  rw [windows_on, lookup_change, hw'] at hlater
  rw [outcomesFor_cons]
  by_cases hname : client.name = name
  · rw [if_pos hname]
    exact hlater (forget c w') (congrArg some (if_pos hname.symm))
  · rw [if_neg hname]
    exact hlater w' (congrArg some (if_neg fun e => hname e.symm))

/-- What is taken and cannot be printed leaves the windows as they are. -/
theorem submits_of_unprinted {c : Claim} {client : Client ω} {pending : List (Claim × Client ω)}
    {line : String} {e : Fault} {w w₁ : ω} (hline : client.receipt? c.play = .ok line)
    (hsubmitted : client.submit c.play d.host = .ok () w)
    (hunprinted : Host.tell line "INFO" w = .fail e w₁) :
    Submits d ((c, client) :: pending) [true] (.error e) (d.on w₁) := by
  refine ⟨(fun h => nomatch h), rfl, fun name w' hw' => ?_,
    .unprinted hline hsubmitted hunprinted⟩
  rw [windows_on, hw', outcomesFor_cons, outcomesFor_nil]
  by_cases hname : client.name = name
  · rw [if_pos hname]
    rfl
  · rw [if_neg hname]
    rfl

/-- **Deliveries are what submitting does**, and all that it does to the host. -/
theorem Deliveries.submits {pending : List (Claim × Client ω)} {taken : List Bool}
    {result : Except Fault Unit} {w : ω} (h : Deliveries pending d.host taken result w) :
    ∃ d', Step.forEach submit pending d = ⟨result.map fun _ => taken, d'⟩ ∧ d'.host = w
      ∧ Submits d pending taken result d' := by
  generalize hhost : d.host = start at h
  induction h generalizing d with
  | nothing w => exact ⟨d, rfl, hhost, fun _ => rfl, rfl, fun _ _ hw => hw, hhost ▸ .nothing _⟩
  | @taken c client rest w w' w'' w₁ line taken result said submitted printed others ih =>
    subst hhost
    obtain ⟨d', hrest, hw, hsubmits⟩ := ih (d := d.on w₁) rfl
    refine ⟨d', ?_, hw, hsubmits.taken said submitted printed⟩
    have hfirst : submit (c, client) d = .ok true (d.on w₁) := by
      rw [submit_of_taken said submitted, printed]
      rfl
    rw [Step.forEach, hfirst, Step.andThen_ok, hrest]
    cases result <;> rfl
  | @refused c client rest w w' w'' line taken result refusal reason described
    submitted others ih =>
    subst hhost
    obtain ⟨d', hrest, hw, hsubmits⟩ := ih (d := (d.change client.name (forget c)).on _) rfl
    refine ⟨d', ?_, hw, hsubmits.refused described submitted⟩
    rw [Step.forEach, submit_of_refused described submitted, Step.andThen_ok, hrest]
    cases result <;> rfl
  | @unprinted c client rest w w' w'' line e said submitted unprinted =>
    subst hhost
    refine ⟨d.on w'', ?_, rfl, submits_of_unprinted said submitted unprinted⟩
    rw [Step.forEach, submit_of_taken said submitted, unprinted]
    rfl

/-- Submitting a row of claims has submitted them, if it returned. -/
theorem submits_of_forEach {pending : List (Claim × Client ω)} {taken : List Bool}
    (h : Step.forEach submit pending d = .ok taken d') :
    Submits d pending taken (.ok ()) d' := by
  induction pending generalizing d taken with
  | nil =>
    obtain ⟨rfl, rfl⟩ := Step.ok_inj h
    exact ⟨fun _ => rfl, rfl, fun _ _ hw => hw, .nothing _⟩
  | cons pair rest ih =>
    obtain ⟨c, client⟩ := pair
    obtain ⟨b, d₁, taken₁, hfirst, hrest, rfl⟩ := Step.exists_of_forEach_cons_eq_ok h
    rcases submit_eq_ok hfirst with ⟨line, host, host', rfl, hline, hsubmitted, hprinted, rfl⟩
      | ⟨line, host, refusal, reason, rfl, hline, hsubmitted, rfl⟩
    · exact (ih hrest).taken hline hsubmitted hprinted
    · exact (ih hrest).refused hline hsubmitted

omit [Host ω] in
/-- A play that a client can handle is taken or refused. -/
theorem Handles.submit_cases {client : Client ω} {p : Play} (h : Handles client p) (w : ω) :
    (∃ w', client.submit p w = .ok () w')
      ∨ ∃ refusal reason w', client.submit p w = .fail (.refused refusal reason) w' := by
  rcases h.submit w with htaken | ⟨refusal, reason, hrefused⟩
  · exact Or.inl ⟨_, congrArg (Step.mk · _) htaken⟩
  · exact Or.inr ⟨refusal, reason, _, congrArg (Step.mk · _) hrefused⟩

/-- **Entries can be delivered** to clients that can handle them. Nothing that is
refused stops it, and nothing that is plain. -/
theorem exists_deliveries {pending : List (Claim × Client ω)}
    (hpending : ∀ pair ∈ pending, pair.1.play.Entry ∧ Handles pair.2 pair.1.play) (w : ω) :
    ∃ taken result w', Deliveries pending w taken result w'
      ∧ (Host.PrintsPlain ω → (∀ pair ∈ pending, pair.2.SaysPlainly pair.1.play) →
        result = .ok ()) := by
  induction pending generalizing w with
  | nil => exact ⟨[], .ok (), w, .nothing w, fun _ _ => rfl⟩
  | cons pair rest ih =>
    obtain ⟨c, client⟩ := pair
    obtain ⟨hc, hhandles⟩ := hpending _ List.mem_cons_self
    have hothers := ih fun pair hpair => hpending pair (List.mem_cons_of_mem _ hpair)
    rcases hhandles.submit_cases w with ⟨w', htaken⟩ | ⟨refusal, reason, w', hrefused⟩
    · obtain ⟨line, hline⟩ := client.exists_receipt? hc
      cases hprinted : Host.tell line "INFO" w' with
      | mk printed w₁ =>
      cases printed with
      | error e =>
        refine ⟨[true], .error e, w₁, .unprinted hline htaken hprinted,
          fun hconsole hplain => ?_⟩
        obtain ⟨w₂, htold⟩ := hconsole line "INFO" w' (hplain _ List.mem_cons_self line hline)
        exact absurd (hprinted.symm.trans htold) Step.fail_ne_ok
      | ok u =>
        obtain ⟨taken, result, w'', hrest, hok⟩ := hothers w₁
        exact ⟨true :: taken, result, w'', .taken hline htaken hprinted hrest,
          fun hconsole hplain => hok hconsole fun pair hpair =>
            hplain pair (List.mem_cons_of_mem _ hpair)⟩
    · obtain ⟨line, hline⟩ := hc.exists_describe?
      obtain ⟨taken, result, w'', hrest, hok⟩ :=
        hothers (Host.notify (refusalNotice line client.name refusal reason) w')
      exact ⟨false :: taken, result, w'', .refused hline hrefused hrest,
        fun hconsole hplain => hok hconsole fun pair hpair =>
          hplain pair (List.mem_cons_of_mem _ hpair)⟩

end Dispatcher

end Listening
