import Howy.Security.JournalCalls

namespace Howy.Security.JournalChain

open Library Storage Provisioning

variable {E : Encoding} {parent : DirectoryIdentityV1} {w x y z : World} {a b : Node} {path : Path}
  {call : JournalCall} {visited : List World} {bytes : Bytes}

section

variable {q : ParsedJournal} {Q : Except SecurityError (Option ObservedFile) → World → Prop}

lemma sure_observeCandidate {name : Bytes} (hs : w.files.lookup ⟨journalFile.directory, name⟩ = some a)
    (hobservable : Observable w ⟨journalFile.directory, name⟩ maxJournalBytes.toNat) :
    Sure Calm (observeCandidates journalFile.directory parent [name]) w [(name, observed a parent)] := by
  refine .bind (sure_observeAtomicAt hobservable) ?_
  rw [hs]
  exact .bind sure_pure (Sure.bind sure_pure sure_pure)

lemma sure_journalStageCandidates {candidates : List (Bytes × ObservedFile)}
    (h : Sure Calm (observeCandidates journalFile.directory parent (stageNames w)) w candidates) :
    Sure Calm (journalStageCandidates journalFile.directory parent) w candidates := by
  refine .bind sure_system (Sure.bind sure_system (Sure.bind (sure_query ?_) h))
  intro c _
  rfl

lemma total_loadJournal (candidates : List (Bytes × ObservedFile)) (hopened : Opened w parent)
    (hj : w.files.lookup journalFile = some b) (hb : Written b b.bytes) (hq : parsedJournal E b.bytes = .ok q)
    (hcandidates : Sure Calm (observeCandidates journalFile.directory parent (stageNames w)) w candidates)
    (h : Total Calm Q (settleJournalStages E journalFile.directory parent (observed b parent) q
      candidates).run w) :
    Total Calm Q (loadJournal E).run w := by
  refine total_after (hopened w rfl) (total_after (sure_observeAtomicAt (observable_of_written hb ⟨q, hq⟩ hj)) ?_)
  refine total_after (sure_journalStageCandidates hcandidates) ?_
  rw [hj]
  exact total_after (sure_fromExcept (validateRegular_of_written hb)) (total_after (sure_fromExcept hq) h)

lemma returns_load_single (hopened : Opened w parent) (hb : Written b b.bytes)
    (hq : parsedJournal E b.bytes = .ok q) (hj : w.files.lookup journalFile = some b) (hs : NoStage w) :
    Returns (loadJournal E) w (.ok (some (observed b parent))) fun y => y = w := by
  apply returns_of_total
  refine total_loadJournal [] hopened hj hb hq ?_ ⟨rfl, rfl⟩
  rw [stageNames_eq_nil.mpr hs]
  exact sure_pure

section

variable (hopened : Opened w parent) (ha : Written a a.bytes) (hb : Written b b.bytes) (hab : Succeeds E a b)
  (hp : IsStageOf E a path)
include hopened ha hb hab hp

lemma returns_load_before (hj : w.files.lookup journalFile = some a) (hs : OnlyStage w path b) :
    Returns (loadJournal E) w
      (.error (.uncertain "pre-exchange journal stage identity was not durably bound and was retained"))
      fun y => y = w := by
  obtain ⟨p, hparsed, rfl⟩ := hp
  obtain ⟨p', q, hp', hq, hnext, -⟩ := hab
  cases hparsed.symm.trans hp'
  obtain ⟨hname, hstage⟩ := stage_spec hparsed
  apply returns_of_total
  refine total_loadJournal [(stageName p.transactionId, observed b parent)] hopened hj ha hparsed ?_ ?_
  · rw [stageNames_eq_singleton hstage hs]
    exact sure_observeCandidate hs.1 (observable_of_written hb ⟨q, hq⟩ hs.1)
  refine total_after (sure_fromExcept hname) (total_after (sure_fromExcept (require_eq_ok.mpr rfl)) ?_)
  refine total_after (sure_fromExcept (validateRegular_of_written hb)) (total_after (sure_fromExcept hq) ?_)
  rw [if_pos hnext]
  exact ⟨rfl, rfl⟩

lemma returns_load_after (hj : w.files.lookup journalFile = some b) (hs : OnlyStage w path a) :
    Returns (loadJournal E) w (.ok (some (observed b parent))) fun y => Unlinks path w y := by
  obtain ⟨q, hq, rfl⟩ := hab.isStageOf.mp hp
  obtain ⟨p, q', hparsed, hq', hnext, hprior⟩ := hab
  cases hq.symm.trans hq'
  obtain ⟨hname, hstage⟩ := stage_spec hq
  have hobservable := observable_of_written ha ⟨p, hparsed⟩ hs.1
  have hnot : ¬ q.validNext E p := fun hback => (generation_lt hnext).asymm (generation_lt hback)
  apply returns_of_total
  refine total_loadJournal [(stageName q.transactionId, observed a parent)] hopened hj hb hq ?_ ?_
  · rw [stageNames_eq_singleton hstage hs]
    exact sure_observeCandidate hs.1 hobservable
  refine total_after (sure_fromExcept hname) (total_after (sure_fromExcept (require_eq_ok.mpr rfl)) ?_)
  refine total_after (sure_fromExcept (validateRegular_of_written ha)) (total_after (sure_fromExcept hparsed) ?_)
  rw [if_neg hnot, if_pos ⟨hnext, hprior⟩]
  refine total_bindE (total_after (sure_observeAtomicAt hobservable) ?_)
  rw [hs.1]
  refine total_after sure_pure (total_after (sure_fromExcept (require_eq_ok.mpr observedControlMatches_refl)) ?_)
  refine total_bindE (total_unlinkat hs.1 ha.kind fun y hy => ?_)
  exact total_of_answers sure_system ⟨rfl, hy⟩

end

end

def givenTo : JournalCall → List Bytes
  | .persist _ bytes => [bytes]
  | .load | .remove _ _ => []

def Stops (E : Encoding) : JournalCall → World → List World → World → Prop
  | .persist prior bytes, w, visited, w' =>
    ∃ q, Visits (fun _ => True) (persistJournal E prior bytes).run w visited q w'
  | .load, w, visited, w' => ∃ q, Visits (fun _ => True) (loadJournal E).run w visited q w'
  | .remove transactionId expected, w, visited, w' =>
    ∃ q, Visits (fun _ => True) (removeJournal E transactionId expected).run w visited q w'

inductive History (E : Encoding) (w₀ : World) : List Bytes → List World → World → Prop where
  | start : History E w₀ [] [w₀] w₀
  | call {given : List Bytes} {past visited : List World} {w w' : World} (before : History E w₀ given past w)
      (call : JournalCall) (stops : Stops E call w visited w') :
      History E w₀ (given ++ givenTo call) (past ++ visited) w'

lemma stops_spec (h : Stops E call x visited y) (hx : Shape E x)
    (hunnamed : x.unnamed) : (x :: visited).IsChain (Advances E call) ∧ Shape E y ∧
    (x :: visited).getLast? = some y := by
  cases call with
  | persist prior bytes =>
    obtain ⟨q, hq⟩ := h
    have htriple := triple_persistJournal prior bytes hx hunnamed x ⟨hx, .untouched⟩ rfl
    obtain ⟨hchain, -, hy, -⟩ := safe_of_visits hq htriple ⟨hx, .untouched⟩
    exact ⟨hchain, hy.1, getLast_visits hq⟩
  | load =>
    obtain ⟨q, hq⟩ := h
    obtain ⟨hchain, -, hy, -⟩ := safe_of_visits hq (triple_loadJournal .load x hx trivial) hx
    exact ⟨hchain, hy, getLast_visits hq⟩
  | remove transactionId expected =>
    obtain ⟨q, hq⟩ := h
    obtain ⟨hchain, -, hy, -⟩ := safe_of_visits hq (triple_removeJournal x hx trivial) hx
    exact ⟨hchain, hy, getLast_visits hq⟩

def Follows (E : Encoding) (y z : World) : Prop :=
  z.files.lookup journalFile = y.files.lookup journalFile ∨ z.files.lookup journalFile = none ∨
    ∃ b, z.files.lookup journalFile = some b ∧ (y.files.lookup journalFile = none ∧ First E b ∨
      ∃ a, y.files.lookup journalFile = some a ∧ Succeeds E a b)

def UnlinksPredecessor (E : Encoding) (y z : World) : Prop :=
  z.unlinked = y.unlinked ∨ ∃ a b path, y.files.lookup journalFile = some b ∧ Succeeds E a b ∧
    y.files.lookup path = some a ∧ z.unlinked = y.unlinked ++ [(path, a)] ∧ z.files.lookup journalFile = some b

lemma follows_of_move (h : Move E call y z) : Follows E y z := by
  cases h with
  | start written first journal opened =>
    exact .inr (.inr ⟨_, AList.lookup_insert _, .inl ⟨journal, first⟩⟩)
  | link written succeeds isStageOf journal stage =>
    exact .inl (AList.lookup_insert_ne isStageOf.ne)
  | exchange written succeeds isStageOf journal stage =>
    exact .inr (.inr ⟨_, AList.lookup_insert _, .inr ⟨_, journal, succeeds⟩⟩)
  | clean succeeds isStageOf journal stage unlinks => exact .inl (unlinks.spec.2.1 _ isStageOf.ne)
  | remove stage unlinks => exact .inr (.inl unlinks.spec.1)

def Careful (E : Encoding) (y z : World) : Prop :=
  UnlinksPredecessor E y z ∧ (y.files.lookup journalFile ≠ none → z.files.lookup journalFile ≠ none)

lemma advances_spec (h : Advances E call y z) : Follows E y z ∧ (y.unnamed → z.unnamed) ∧
      (∀ b, z.files.lookup journalFile = some b → y.files.lookup journalFile = some b ∨ b.bytes ∈ givenTo call) ∧
      ((∀ transactionId expected, call ≠ .remove transactionId expected) → Careful E y z) := by
  obtain rfl | h := h
  · exact ⟨.inl rfl, id, fun b hb => .inl hb, fun _ => ⟨.inl rfl, id⟩⟩
  refine ⟨follows_of_move h, ?_⟩
  cases h with
  | @start bytes b y written first journal opened =>
    have hnew : (placed y journalFile b).files.lookup journalFile = some b := AList.lookup_insert _
    refine ⟨id, fun c hc => .inr ?_, fun _ => ⟨.inl rfl, fun hold => absurd journal hold⟩⟩
    cases hnew.symm.trans hc
    exact List.mem_singleton.mpr written.bytes
  | @link prior bytes a b path y written succeeds isStageOf journal stage =>
    have hsame : (placed y path b).files.lookup journalFile = y.files.lookup journalFile :=
      AList.lookup_insert_ne isStageOf.ne
    exact ⟨id, fun c hc => .inl (hsame.symm.trans hc), fun _ => ⟨.inl rfl, hsame.trans_ne⟩⟩
  | @exchange prior bytes a b path y written succeeds isStageOf journal stage =>
    have hnew : (exchanged y path a b).files.lookup journalFile = some b := AList.lookup_insert _
    refine ⟨id, fun c hc => .inr ?_, fun _ => ⟨.inl rfl, fun _ => ?_⟩⟩
    · cases hnew.symm.trans hc
      exact List.mem_singleton.mpr written.bytes
    · exact Option.some_ne_none b
  | clean succeeds isStageOf journal stage unlinks =>
    have hsame := unlinks.spec.2.1 _ isStageOf.ne
    obtain ⟨node, hnode, rfl⟩ := unlinks
    cases stage.symm.trans hnode
    refine ⟨id, fun c hc => .inl (hsame.symm.trans hc), fun _ => ⟨.inr ?_, hsame.trans_ne⟩⟩
    exact ⟨_, _, _, journal, succeeds, stage, rfl, hsame.trans journal⟩
  | remove stage unlinks =>
    have hgone := unlinks.spec.1
    obtain ⟨node, -, rfl⟩ := unlinks
    refine ⟨id, fun c hc => ?_, fun hcall => absurd rfl (hcall _ _)⟩
    cases hgone.symm.trans hc

structure Reached (E : Encoding) (given : List Bytes) (past : List World) (w : World) : Prop where
  last : past.getLast? = some w
  unnamed : w.unnamed = true
  shape : Shape E w
  chain : past.IsChain (Follows E)
  contents : ∀ v ∈ past, ∀ node, v.files.lookup journalFile = some node → node.bytes ∈ given

lemma reached {w₀ : World} {given : List Bytes} {past : List World} (hunnamed : w₀.unnamed)
    (hj : w₀.files.lookup journalFile = none) (hs : NoStage w₀) (h : History E w₀ given past w) :
    Reached E given past w := by
  induction h with
  | start =>
    refine ⟨rfl, hunnamed, .absent hj hs, List.isChain_singleton _, fun v hv node hnode => ?_⟩
    rw [List.mem_singleton.mp hv, hj] at hnode
    cases hnode
  | @call given past visited w w' before call stops ih =>
    obtain ⟨hchain, hshape, hlast⟩ := stops_spec stops ih.shape ih.unnamed
    have hcontents : ∀ v ∈ w :: visited, v.unnamed ∧
        ∀ node, v.files.lookup journalFile = some node → node.bytes ∈ given ++ givenTo call := by
      refine hchain.induction _ _ (fun y z hyz hy => ?_) fun _ => ?_
      · obtain ⟨-, hun, hnew, -⟩ := advances_spec hyz
        refine ⟨hun hy.1, fun node hnode => ?_⟩
        obtain hold | hnew := hnew node hnode
        · exact hy.2 node hold
        · exact List.mem_append_right _ hnew
      · refine ⟨ih.unnamed, fun node hnode => List.mem_append_left _ (ih.contents w ?_ node hnode)⟩
        exact List.mem_of_getLast? ih.last
    -- The call starts in the last state of the past.
    obtain ⟨front, rfl⟩ := List.getLast?_eq_some_iff.mp ih.last
    have hjoin : front ++ [w] ++ visited = front ++ w :: visited := by
      rw [List.append_assoc, List.singleton_append]
    refine ⟨?_, (hcontents w' (List.mem_of_getLast? hlast)).1, hshape, ?_, fun v hv node hnode => ?_⟩
    · rw [hjoin, List.getLast?_append, hlast, Option.some_or]
    · rw [hjoin, List.isChain_split]
      exact ⟨ih.chain, hchain.imp fun y z hyz => (advances_spec hyz).1⟩
    rw [List.mem_append] at hv
    obtain hv | hv := hv
    · exact List.mem_append_left _ (ih.contents v hv node hnode)
    · exact (hcontents v (List.mem_cons_of_mem _ hv)).2 node hnode

lemma journal_of_load (h : Stops E .load x visited y) (hx : Shape E x) (hunnamed : x.unnamed) :
    y.files.lookup journalFile = x.files.lookup journalFile := by
  obtain ⟨hchain, -, hlast⟩ := stops_spec h hx hunnamed
  have hsame : ∀ v ∈ x :: visited, v.files.lookup journalFile = x.files.lookup journalFile := by
    refine hchain.induction _ _ (fun y z hyz hy => ?_) fun _ => rfl
    obtain rfl | hmove := hyz
    · exact hy
    · cases hmove with
      | clean succeeds isStageOf journal stage unlinks => exact (unlinks.spec.2.1 _ isStageOf.ne).trans hy
  exact hsame y (List.mem_of_getLast? hlast)

lemma newest_of_load {cs : List Choice} {file : ObservedFile} (hx : Shape E x) (hunnamed : x.unnamed)
    (hrun : (loadJournal E).run.run cs x = some (.ok (some file), y)) :
    ∃ node parent, file = observed node parent ∧ x.files.lookup journalFile = some node ∧
      y.files.lookup journalFile = some node := by
  obtain ⟨visited, hvisits⟩ := visits_of_run (fun _ _ => trivial) hrun
  have hstops : Stops E .load x visited y := ⟨_, hvisits⟩
  have hsame := journal_of_load hstops hx hunnamed
  have hsafe := triple_loadJournal .load x hx trivial
  obtain ⟨hloaded, -⟩ := post_of_run hsafe hx (fun _ _ => trivial) hrun
  obtain ⟨hnone, -⟩ | ⟨node, parent, hfile, hnode, -⟩ := hloaded
  · cases hnone
  · cases hfile
    exact ⟨node, parent, rfl, hsame.symm.trans hnode, hnode⟩

def Settles (E : Encoding) (bytes : Bytes) (w w' : World) : Prop :=
  w' = w ∨
    (∃ b parent, b.bytes = bytes ∧ w'.files.lookup journalFile = some b ∧
      Returns (loadJournal E) w' (.ok (some (observed b parent))) fun y =>
        y.files.lookup journalFile = some b ∧ NoStage y) ∨
    ∃ b path, b.bytes = bytes ∧ w'.files.lookup journalFile = w.files.lookup journalFile ∧ IsStage path ∧
      w'.files.lookup path = some b ∧
      Returns (loadJournal E) w'
        (.error (.uncertain "pre-exchange journal stage identity was not durably bound and was retained"))
        fun y => y = w'

lemma settles_of_placed (hw : Shape E w) (hb : Written b bytes) (hj : w.files.lookup journalFile = some b)
    (hs : NoStage w) : Settles E bytes x w := by
  refine .inr (.inl ?_)
  cases hw with
  | absent journal => cases hj.symm.trans journal
  | single written parses journal stage opened =>
    cases hj.symm.trans journal
    obtain ⟨q, hq⟩ := parses
    obtain ⟨parent, hparent⟩ := opened
    refine ⟨b, parent, hb.bytes, hj, fun choices hcalm => ?_⟩
    obtain ⟨n, y, hrun, rfl⟩ := returns_load_single hparent written hq journal stage choices hcalm
    exact ⟨n, y, hrun, journal, stage⟩
  | before _ _ _ isStageOf _ stage | after _ _ _ isStageOf _ stage =>
    cases stage.1.symm.trans (hs _ isStageOf.isStage)

lemma settles_of_progress (hx : Shape E x) (hw : Shape E w) (h : Progress E bytes x w) : Settles E bytes x w := by
  cases h with
  | untouched => exact .inl rfl
  | started written journal =>
    refine settles_of_placed hw written (AList.lookup_insert _) fun other hother => ?_
    exact (AList.lookup_insert_ne (ne_journalFile_of_isStage hother)).trans (hx.noStage journal other hother)
  | @linked a b path written succeeds isStageOf journal =>
    have hj : (placed x path b).files.lookup journalFile = some a :=
      (AList.lookup_insert_ne isStageOf.ne).trans journal
    have hs : (placed x path b).files.lookup path = some b := AList.lookup_insert _
    obtain ⟨ha, hb, honly, parent, hparent⟩ := hw.staged hj isStageOf.isStage hs
    exact .inr (.inr ⟨b, path, written.bytes, hj.trans journal.symm, isStageOf.isStage, hs,
      returns_load_before hparent ha hb succeeds isStageOf hj honly⟩)
  | @exchanged a b path written succeeds isStageOf =>
    have hj : (exchanged (placed x path b) path a b).files.lookup journalFile = some b := AList.lookup_insert _
    have hs : (exchanged (placed x path b) path a b).files.lookup path = some a :=
      (AList.lookup_insert_ne isStageOf.ne.symm).trans (AList.lookup_insert _)
    obtain ⟨hb, ha, honly, parent, hparent⟩ := hw.staged hj isStageOf.isStage hs
    refine .inr (.inl ⟨b, parent, written.bytes, hj, fun choices hcalm => ?_⟩)
    obtain ⟨n, y, hrun, hunlinks⟩ := returns_load_after hparent ha hb succeeds isStageOf hj honly choices hcalm
    exact ⟨n, y, hrun, (hunlinks.spec.2.1 _ isStageOf.ne).trans hj, honly.noStage_of_unlinks hunlinks⟩
  | @finished a b path y written succeeds isStageOf unlinks =>
    have hj : w.files.lookup journalFile = some b :=
      (unlinks.spec.2.1 _ isStageOf.ne).trans (AList.lookup_insert _)
    exact settles_of_placed hw written hj (hw.alone hj (succeeds.isStageOf.mp isStageOf) unlinks.spec.1).2.1

/-- Over any sequence of persists, loads and removals, each stopped anywhere. -/
theorem journal_history_linear {w₀ : World} {given : List Bytes} {past : List World} (hunnamed : w₀.unnamed = true)
    (hj : w₀.files.lookup journalFile = none) (hs : NoStage w₀) (h : History E w₀ given past w) :
    -- the journal is absent or complete
    (∀ v ∈ past, ∀ node, v.files.lookup journalFile = some node → node.bytes ∈ given) ∧
    -- its contents follow one another
    past.IsChain (Follows E) ∧
    -- a load that succeeds returns the newest
    (∀ cs file w', (loadJournal E).run.run cs w = some (.ok (some file), w') → ∃ node parent,
      file = observed node parent ∧ w.files.lookup journalFile = some node ∧
      w'.files.lookup journalFile = some node) ∧
    -- only a removal unlinks more than the generation before the journal's
    (∀ call visited w', Stops E call w visited w' →
      (∀ transactionId expected, call ≠ .remove transactionId expected) → (w :: visited).IsChain (Careful E)) ∧
    -- the next load settles a persist that was stopped
    ∀ prior bytes visited w', Stops E (.persist prior bytes) w visited w' → Settles E bytes w w' := by
  have hw := reached hunnamed hj hs h
  refine ⟨hw.contents, hw.chain, fun cs file w' hrun => newest_of_load hw.shape hw.unnamed hrun, ?_, ?_⟩
  · intro call visited w' hstops hcall
    exact (stops_spec hstops hw.shape hw.unnamed).1.imp fun y z hyz => (advances_spec hyz).2.2.2 hcall
  rintro prior bytes visited w' ⟨q, hq⟩
  have htriple := triple_persistJournal prior bytes hw.shape hw.unnamed w ⟨hw.shape, .untouched⟩ rfl
  obtain ⟨-, -, ⟨hshape, hprogress⟩, -⟩ := safe_of_visits hq htriple ⟨hw.shape, .untouched⟩
  exact settles_of_progress hw.shape hshape hprogress

def sampleSecond : Provisioning.ProvisioningJournalV1 :=
  { JournalHistory.sampleGuarded with
    priorJournalIdentity := some ⟨1, 1, .regularFile, 0, 0, 0o600, 1, 1, JournalHistory.sampleDigest⟩ }

def sampleEncoding : Encoding where
  toSerialization := JournalHistory.sampleSerialization
  manifestJson _ := []
  mode1 bytes := if bytes = [7] then some JournalHistory.sampleJournal else if bytes =
    [8] then some sampleSecond else none
  plaintext _ := none
  supervisor _ := none

def sampleWorld : World := ⟨∅, fun _ => some ⟨.directory, 1, 2, 0, 0, 0o755, 1⟩, [], true⟩

def firstPersist : Option (Except SecurityError ObservedFile × World) :=
  (persistJournal sampleEncoding none [7]).run.run (List.replicate 64 {}) sampleWorld

/-- The second generation after 50 of its steps: it is exchanged into place, and the first is not yet unlinked. -/
def secondPersist (file : ObservedFile) (w : World) : World :=
  (stopped (persistJournal sampleEncoding (some file) [8]).run (List.replicate 50 { inode := 4 }) w).2

theorem journal_history_linear_sample : ∃ file w past, firstPersist = some (.ok file, w) ∧
    History sampleEncoding sampleWorld [[7], [8]] past (secondPersist file w) ∧
    ((secondPersist file w).files.lookup journalFile).map Node.bytes = some [8] ∧
    (secondPersist file w).files.entries.length = 2 ∧ past.IsChain (Follows sampleEncoding) ∧
    Settles sampleEncoding [8] w (secondPersist file w) := by
  have hruns : firstPersist.map (fun x => x.1.toOption.map fun file =>
      (((secondPersist file x.2).files.lookup journalFile).map Node.bytes,
        (secondPersist file x.2).files.entries.length)) = some (some (some [8], 2)) := by decide +kernel
  simp only [Option.map_eq_some_iff, Prod.exists, Prod.mk.injEq] at hruns
  obtain ⟨r, w, hrun, file, hfile, hcontent, hentries⟩ := hruns
  obtain rfl : r = .ok file := by
    cases r with
    | error e => cases hfile
    | ok file' => cases hfile; rfl
  obtain ⟨visited, hvisits⟩ := visits_of_run (fun _ _ => trivial) hrun
  obtain ⟨later, hlater⟩ := visits_stopped (p := (persistJournal sampleEncoding (some file) [8]).run) (s := w)
    (List.replicate 50 { inode := 4 })
  have hfirst : History sampleEncoding sampleWorld [[7]] ([sampleWorld] ++ visited) w :=
    .call .start (.persist none [7]) ⟨_, hvisits⟩
  have hstops : Stops sampleEncoding (.persist (some file) [8]) w later (secondPersist file w) := ⟨_, hlater⟩
  have hhistory := hfirst.call _ hstops
  obtain ⟨-, -, -, -, hsettles⟩ := journal_history_linear rfl rfl (fun _ _ => rfl) hfirst
  obtain ⟨-, hchain, -⟩ := journal_history_linear rfl rfl (fun _ _ => rfl) hhistory
  exact ⟨file, w, _, hrun, hhistory, Option.map_eq_some_iff.mpr hcontent, hentries, hchain,
    hsettles _ _ _ _ hstops⟩

end Howy.Security.JournalChain
