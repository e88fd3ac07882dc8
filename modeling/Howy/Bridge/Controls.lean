import Howy.Bridge.Publishing

namespace Howy.Bridge

open Library Storage

variable {α : Type} {B : ConfigBridge} {P : World → Prop} {s s' s₀ : World} {p new : Path} {bytes : Bytes}
  {expected old : FileRecord} {found : Node}

lemma keeps_from {x : Op α} {Q : α → World → Prop} (h : ∀ s₀, Working B s₀ → P s₀ → Keeps B (SameCore s₀) x Q) :
    Keeps B P x Q := fun s hi hs => h s hi hs s hi (SameCore.refl s)

def JournalIs (found : Option Node) (s : World) : Prop := look s journalFile = found

lemma coreOnly_journalIs {found : Option Node} : CoreOnly (JournalIs found) := coreOnly_look journal_not_isStage

lemma NoStash.congr (h : NoStash B s) (hs : look s' journalFile = look s journalFile) : NoStash B s' :=
  fun node journal hnode => h node journal (hs ▸ hnode)

lemma noStash_of_none (h : look s journalFile = none) : NoStash B s := by
  intro node journal hnode
  rw [h] at hnode
  cases hnode

variable {q : Path} {journal : BridgeJournal}

lemma Published.look_of_ne (h : Published s₀ p bytes s) (hq : ¬ IsStage q) (hne : q ≠ p) :
    look s q = look s₀ q := by
  obtain ⟨node, -, -, -, hcore⟩ := h
  rw [hcore.2 q hq, look_put_of_ne hne]

lemma JournalHolds.congr (h : JournalHolds B s journal)
    (hcaptures : s'.captures = s.captures) (hconfig : look s' configFile = look s configFile)
    (hmanifest : look s' manifestFile = look s manifestFile) : JournalHolds B s' journal := by
  cases journal with
  | bootstrapReleaseN a b c d => exact fun node hnode => h node (hconfig ▸ hnode)
  | restoreReleaseN => trivial
  | stashReleaseN a b source previous manifest d e =>
    refine ⟨h.1, ?_, fun hsome => hmanifest ▸ h.2.2 hsome⟩
    cases source with
    | absent => trivial
    | present file =>
      obtain ⟨captured, hmem, hrecord, hlive⟩ := h.2.1
      exact ⟨captured, hcaptures ▸ hmem, hrecord, fun node hnode => hlive node (hconfig ▸ hnode)⟩

variable {node : Node}

lemma carries_put_new (h : look s p = none) (hmade : node.made) (hconfig : p = configFile → NoStash B s) :
    Carries B s (put s p node) where
  captures _ hn := hn
  stash g old hold := by
    have hne : stashFile g ≠ p := by
      rintro rfl
      rw [h] at hold
      cases hold
    rw [look_put_of_ne hne]
    exact hold
  manifest old hold hm := by
    have hne : manifestFile ≠ p := by
      rintro rfl
      rw [h] at hold
      cases hold
    exact ⟨old, (look_put_of_ne hne).trans hold, hm⟩
  config new hnew := by
    by_cases hp : configFile = p
    · rw [hp, look_put_self, Option.some.injEq] at hnew
      exact .inr (.inr ⟨hnew ▸ hmade, hconfig hp.symm⟩)
    · rw [look_put_of_ne hp] at hnew
      exact .inl hnew

lemma carries_drop (hm : p ≠ manifestFile) (hst : ∀ g, p ≠ stashFile g) : Carries B s (drop s p) where
  captures _ hn := hn
  stash g old hold := (look_drop_of_ne (hst g).symm).trans hold
  manifest old hold hmade := ⟨old, (look_drop_of_ne hm.symm).trans hold, hmade⟩
  config new hnew := by
    by_cases hp : configFile = p
    · rw [hp, look_drop_self] at hnew
      cases hnew
    · rw [look_drop_of_ne hp] at hnew
      exact .inl hnew

lemma look_put_cases (h : look (put s p node) q = some found) :
    (q = p ∧ found = node) ∨ look s q = some found := by
  by_cases hq : q = p
  · subst hq
    rw [look_put_self, Option.some.injEq] at h
    exact .inl ⟨rfl, h.symm⟩
  · rw [look_put_of_ne hq] at h
    exact .inr h

lemma look_of_drop (h : look (drop s p) q = some found) : look s q = some found := by
  by_cases hq : q = p
  · subst hq
    rw [look_drop_self] at h
    cases h
  · rw [look_drop_of_ne hq] at h
    exact h

lemma working_put_new (hi : Working B s) (h : look s p = none) (hmade : node.made)
    (hconfig : p = configFile → NoStash B s)
    (hjournal : p = journalFile → ∃ journal, node.bytes = B.platform.journalToVec journal ++ [10] ∧
      JournalHolds B (put s p node) journal)
    (hmanifest : p = manifestFile → ∃ manifest, node.bytes = B.platform.manifestToVec manifest ++ [10] ∧
      StashHolds B (put s p node) manifest) : Working B (put s p node) := by
  refine ⟨hi.1.step (carries_put_new h hmade hconfig) ?_ ?_ ?_, hi.2.put fun _ => .inl hmade⟩
  · intro found hfound
    rcases look_put_cases hfound with ⟨hp, rfl⟩ | hold
    · exact .inr ⟨hmade, hjournal hp.symm⟩
    · exact .inl hold
  · intro found hfound
    rcases look_put_cases hfound with ⟨hp, rfl⟩ | hold
    · exact .inr ⟨hmade, hmanifest hp.symm⟩
    · exact .inl hold
  · intro found hfound
    rcases look_put_cases hfound with ⟨-, rfl⟩ | hold
    · exact .inr hmade
    · exact .inl hold

lemma working_drop (hi : Working B s) (hm : p ≠ manifestFile) (hst : ∀ g, p ≠ stashFile g) :
    Working B (drop s p) :=
  ⟨hi.1.step (carries_drop hm hst) (fun _ h => .inl (look_of_drop h)) (fun _ h => .inl (look_of_drop h))
    fun _ h => .inl (look_of_drop h), hi.2.drop⟩

lemma welcome_other (hc : p ≠ configFile) (hj : p ≠ journalFile) (hm : p ≠ manifestFile) : Welcome B s₀ p bytes :=
  fun _ _ hi _ hnone hmade _ => working_put_new hi hnone hmade (fun h => absurd h hc) (fun h => absurd h hj)
    fun h => absurd h hm

lemma welcome_config (hno : NoStash B s₀) : Welcome B s₀ configFile bytes :=
  fun _ _ hi hs hnone hmade _ => working_put_new hi hnone hmade
    (fun _ => NoStash.congr hno (hs.2 _ journal_not_isStage)) (fun h => absurd h (by simp)) fun h =>
    absurd h (by simp)

lemma welcome_journal (h : JournalHolds B s₀ journal) :
    Welcome B s₀ journalFile (B.platform.journalToVec journal ++ [10]) := by
  intro s node hi hs hnone hmade hbytes
  have hc : configFile ≠ journalFile := by simp
  have hm : manifestFile ≠ journalFile := by simp
  apply working_put_new hi hnone hmade (fun h => absurd h hc.symm) ?_ fun h => absurd h hm.symm
  refine fun _ => ⟨journal, hbytes, JournalHolds.congr h hs.1 ?_ ?_⟩
  · rw [look_put_of_ne hc, hs.2 _ config_not_isStage]
  · rw [look_put_of_ne hm, hs.2 _ manifest_not_isStage]

lemma welcome_manifest {manifest : StashManifest} (h : StashHolds B s₀ manifest) :
    Welcome B s₀ manifestFile (B.platform.manifestToVec manifest ++ [10]) := by
  intro s node hi hs hnone hmade hbytes
  apply working_put_new hi hnone hmade (fun h => absurd h (by simp)) (fun h => absurd h (by simp))
  refine fun _ => ⟨manifest, hbytes, ?_⟩
  exact (h.carries hs.carries).carries
    (carries_put_new hnone hmade fun h => absurd h (by simp))

variable {found : Option Node} {transactionId : String}

lemma keeps_publishMarker : Keeps B (JournalIs found) (publishMarker B transactionId bytes) fun _ =>
    JournalIs found := by
  apply keeps_from
  intro s₀ _ hfound
  apply Triple.skip looks_openDirectory
  intro _
  have hw : Welcome B s₀ markerFile bytes := welcome_other (by simp) (by simp) (by simp)
  apply (hw.publishes (.inr (.inr rfl))).bind triple_throw
  intro _
  apply (Reads.keeps looks_syncDirectory).post
  intro _ s _ hs
  exact (Published.look_of_ne hs.1 journal_not_isStage (by simp)).trans hfound

lemma keeps_removeMarker :
    Keeps B (fun s => JournalIs found s ∧ ∃ node, look s markerFile = some node ∧ ControlNode B node)
      (removeExact B markerFile expected) fun _ => JournalIs found := by
  apply triple_removeExact
  rintro s node hi ⟨hs, control, hlook, hcontrol⟩ hnode
  have hmade : node.made := by
    have he := Option.some.inj (hlook.symm.trans hnode)
    exact (hi.1.marker node hnode).resolve_right fun h => h (he ▸ hcontrol)
  have hold : ∀ old, look s markerFile = some old → Expendable B old := fun old ho =>
    .inl (Option.some.inj (hnode.symm.trans ho) ▸ hmade)
  exact ⟨untouched_drop hold, working_drop hi (by simp) fun g h => stash_ne_marker h.symm,
    (look_drop_of_ne (by simp)).trans hs⟩

lemma keeps_ensureMarker {generation : Option ℕ} {state : ConfigState} :
    Keeps B (JournalIs found) (ensureMarker B transactionId generation state) fun _ => JournalIs found := by
  apply Triple.check
  intro _ _
  apply Triple.check
  intro bytes _
  apply Triple.look reads_readMarkerSnapshot
  intro existing
  cases existing with
  | none => exact keeps_publishMarker.pre fun s _ hs => hs.1
  | some existing =>
    dsimp only
    split
    · exact triple_throw
    apply Triple.check
    intro _ _
    split
    · exact triple_pure fun s _ hs => hs.1
    apply Triple.skip looks_openDirectory
    intro _
    refine .bind (keeps_removeMarker.pre fun s _ hs => ⟨hs.1, hs.2 rfl⟩) fun _ => ?_
    apply Triple.skip looks_syncDirectory
    intro _
    exact keeps_publishMarker

lemma keeps_removeStashedMarker {marker : Option FileRecord} :
    Keeps B (JournalIs found) (removeStashedMarker B marker) fun _ => JournalIs found := by
  apply Triple.look reads_readMarkerSnapshot
  intro current
  split
  · apply Triple.check
    intro _ _
    apply Triple.skip looks_openDirectory
    intro _
    refine .bind (keeps_removeMarker.pre fun s _ hs => ⟨hs.1, hs.2 rfl⟩) fun _ => ?_
    exact Reads.keeps looks_syncDirectory
  · exact triple_pure fun s _ hs => hs.1
  · exact triple_throw

lemma serializeControl_eq_ok {label : String} {out : Bytes} (h : serializeControl bytes label = .ok out) :
    out = bytes ++ [10] := by
  rw [serializeControl, then_eq_ok, pure_eq_ok] at h
  exact h.2.symm

section

variable {inv D : World → Prop} {guar : World → World → Prop} [Std.Refl guar]

lemma triple_writeJournal (h : Publishes B inv guar P D journalFile (B.platform.journalToVec journal ++ [10])) :
    Triple inv guar P (writeJournal B journal) fun _ s => D s ∧
      ∃ node, look s journalFile = some node ∧ node.bytes = B.platform.journalToVec journal ++ [10] := by
  apply Triple.check
  intro _ _
  apply Triple.skip reads_pathOccupied
  intro occupied
  cases occupied with
  | true => exact triple_throw
  | false =>
    apply Triple.check
    intro bytes hbytes
    rw [serializeControl_eq_ok hbytes]
    apply Triple.skip looks_openDirectory
    intro _
    apply h.bind triple_throw
    intro _
    exact (Reads.keeps looks_syncDirectory).post fun _ _ _ hs => ⟨hs.1, hs.2.2.contents⟩

lemma triple_ensureStashFile {path : String} {source : Snapshot}
    (h : ∀ file, resolve path = some file → Publishes B inv guar P D file source.bytes) (hsame : ∀ s, P s → D s) :
    Triple inv guar P (ensureStashFile B path source transactionId) fun _ s => D s ∧
      ∃ file node, resolve path = some file ∧ look s file = some node ∧ node.bytes = source.bytes := by
  apply Triple.look reads_readNamed
  intro existing
  cases existing with
  | some existing =>
    apply Triple.check
    intro _ _
    apply (Reads.triple reads_fromExcept).post
    rintro _ s - ⟨⟨hs, file, hfile, node, hnode, hbytes, -⟩, hcheck⟩
    exact ⟨hsame s hs, file, node, hfile, hnode, hbytes.symm.trans (require_eq_ok.mp hcheck)⟩
  | none =>
    dsimp only
    split
    · exact triple_throw
    next file hfile =>
      apply Triple.pre _ fun s _ hs => hs.1
      apply Triple.skip looks_openDirectory
      intro _
      apply (h file hfile).bind triple_throw
      intro _
      exact (Reads.keeps looks_syncDirectory).post fun _ _ _ hs =>
        ⟨hs.1, file, hs.2.2.contents.imp fun _ hnode => ⟨hfile, hnode⟩⟩

def ManifestHas (D : World → Prop) (bytes : Bytes) (s : World) : Prop :=
  D s ∧ ∃ node, look s manifestFile = some node ∧ node.bytes = bytes

section

variable {stageFile : Path} (hne : stageFile ≠ manifestFile)
  (hremove : ∀ s node, inv s → D s → look s stageFile = some node → Allowed inv guar D s (drop s stageFile))

include hne hremove

lemma triple_removeManifestBackup :
    Triple inv guar (ManifestHas D bytes) (removeManifestBackup B stageFile old) fun _ => ManifestHas D bytes := by
  refine .bind (triple_removeExact ?_) fun _ => Reads.keeps looks_syncDirectory
  rintro s found hi ⟨hs, node, hnode, hbytes⟩ hfound
  obtain ⟨hg, hi', hd⟩ := hremove s found hi hs hfound
  exact ⟨hg, hi', hd, node, (look_drop_of_ne hne.symm).trans hnode, hbytes⟩

variable (hstage : Publishes B inv guar P P stageFile bytes)
  (hexchange : ∀ s a b, inv s → P s → look s stageFile = some a → look s manifestFile = some b → a.bytes = bytes →
    Allowed inv guar D s (put (put s stageFile b) manifestFile a))

include hstage hexchange

lemma triple_exchangeManifest {stage : Option Snapshot} :
    Triple inv guar (fun s => P s ∧ Shows B s stageFile stage) (do
        let staged ← manifestStage B stageFile stage bytes transactionId
        fromExcept (require (staged.bytes = bytes) (refused "manifest stage has unknown bytes and was retained"))
        exchangeManifest B stageFile old bytes) fun _ => ManifestHas D bytes := by
  refine .bind (Q := fun staged s => P s ∧ ∃ node, look s stageFile = some node ∧ node.bytes = staged.bytes) ?_ ?_
  · cases stage with
    | some staged => exact triple_pure fun s _ ⟨hs, node, hnode, hbytes, _⟩ => ⟨hs, node, hnode, hbytes.symm⟩
    | none =>
      apply Triple.pre _ fun s _ hs => hs.1
      apply hstage.bind triple_throw
      intro staged
      apply Triple.skip looks_syncDirectory
      intro _
      exact triple_pure fun s _ hs => ⟨hs.1, hs.2.1 ▸ hs.2.2.contents⟩
  intro staged
  apply Triple.check
  intro _ hstaged
  rw [require_eq_ok] at hstaged
  refine .bind (triple_exchange (D := D) ?_) fun _ => ?_
  · rintro s a b hi ⟨hs, node, hnode, hbytes⟩ ha hb
    exact hexchange s a b hi hs ha hb (Option.some.inj (ha.symm.trans hnode) ▸ hbytes.trans hstaged)
  apply Triple.skip looks_syncDirectory
  intro _
  apply Triple.look reads_readRegular
  intro current
  apply Triple.skip reads_readRegular
  intro stage
  apply Triple.check
  intro _ hcheck
  rw [require_eq_ok] at hcheck
  apply (triple_removeManifestBackup hne hremove).pre
  rintro s - ⟨hs, hshows⟩
  cases current with
  | none => cases hcheck.1
  | some current =>
    obtain ⟨node, hnode, hcontents, -⟩ := hshows
    exact ⟨hs, node, hnode, hcontents.symm.trans (of_decide_eq_true hcheck.1)⟩

end

lemma triple_replaceManifest {stageName : String} {previous : Option FileRecord}
    (hp : isStageName (utf8Bytes stageName))
    (hremove : ∀ s node, inv s → D s → look s ⟨.state, utf8Bytes stageName⟩ = some node →
      Allowed inv guar D s (drop s ⟨.state, utf8Bytes stageName⟩))
    (hstage : Publishes B inv guar P P ⟨.state, utf8Bytes stageName⟩ bytes)
    (hexchange : previous ≠ none → ∀ s a b, inv s → P s → look s ⟨.state, utf8Bytes stageName⟩ = some a →
      look s manifestFile = some b → a.bytes = bytes →
        Allowed inv guar D s (put (put s ⟨.state, utf8Bytes stageName⟩ b) manifestFile a))
    (hpublish : Publishes B inv guar P D manifestFile bytes) (hsame : ∀ s, P s → D s) :
    Triple inv guar P (replaceManifest B previous bytes stageName transactionId) fun _ => ManifestHas D bytes := by
  have hne : (⟨.state, utf8Bytes stageName⟩ : Path) ≠ manifestFile := fun h =>
    manifest_not_isStage (h ▸ ⟨.inr (.inl rfl), hp⟩)
  apply Triple.skip looks_openDirectory
  intro _
  apply Triple.look reads_readRegular
  intro current
  apply Triple.look reads_readRegular
  intro stage
  have hnew : ∀ s, current.any (fun value =>
        decide (requireControlFile value B.expectedUid B.expectedGid "stash manifest" = .ok ()) &&
        decide (value.bytes = bytes)) → P s ∧ Shows B s manifestFile current → ManifestHas D bytes s := by
    rintro s hcurrent ⟨hs, hshows⟩
    cases current with
    | none => cases hcurrent
    | some current =>
      obtain ⟨node, hnode, hcontents, -⟩ := hshows
      rw [Option.any_some, Bool.and_eq_true] at hcurrent
      exact ⟨hsame s hs, node, hnode, hcontents.symm.trans (of_decide_eq_true hcurrent.2)⟩
  dsimp only
  split
  · split
    · apply Triple.pre _ fun s _ hs => hs.1.1
      apply hpublish.bind triple_throw
      intro _
      exact (Reads.keeps looks_syncDirectory).post fun _ _ _ hs => ⟨hs.1, hs.2.2.contents⟩
    split
    next hcurrent =>
      exact triple_pure fun s _ hs => hnew s hcurrent hs.1
    · exact triple_throw
  · split
    next hcurrent =>
      split
      · exact triple_pure fun s _ hs => hnew s hcurrent hs.1
      · apply Triple.check
        intro _ _
        exact (triple_removeManifestBackup hne hremove).pre fun s _ hs => hnew s hcurrent hs.1
    · apply Triple.check
      intro _ _
      exact (triple_exchangeManifest hne hremove hstage (hexchange (Option.some_ne_none _))).pre
        fun s _ hs => ⟨hs.1.1, hs.2⟩

end

lemma keeps_writeJournal : Keeps B (fun s => JournalHolds B s journal) (writeJournal B journal)
    fun _ _ => True := by
  apply keeps_from
  intro s₀ _ hholds
  exact (triple_writeJournal ((welcome_journal hholds).publishes (.inr (.inl rfl)))).post fun _ _ _ _ => trivial

lemma keeps_removeJournal (hmade : node.made) :
    Keeps B (JournalIs (some node)) (removeJournal B expected) fun _ => JournalIs none := by
  apply Triple.skip looks_openDirectory
  intro _
  refine .bind ?_ fun _ => Reads.keeps looks_syncDirectory
  apply triple_removeExact
  intro s found hi hs hfound
  have hold : ∀ old, look s journalFile = some old → Expendable B old := fun old ho =>
    .inl (Option.some.inj (Eq.trans (Eq.symm hs) ho) ▸ hmade)
  exact ⟨untouched_drop hold, working_drop hi (by simp) fun g h => stash_ne_journal h.symm,
    look_drop_self s journalFile⟩

variable {source : Snapshot} {generation : ℕ}

structure Stashed (s₀ : World) (generation : ℕ) (bytes : Bytes) (s : World) : Prop where
  stash : ∃ node, look s (stashFile generation) = some node ∧ node.bytes = bytes
  captures : s.captures = s₀.captures
  journal : look s journalFile = look s₀ journalFile
  manifest : look s manifestFile = look s₀ manifestFile

lemma keeps_ensureStashFile : Keeps B (SameCore s₀) (ensureStashFile B (stashPath generation) source transactionId)
      fun _ s => Stashed s₀ generation source.bytes s := by
  apply (triple_ensureStashFile (D := fun s => s.captures = s₀.captures ∧
    look s journalFile = look s₀ journalFile ∧ look s manifestFile = look s₀ manifestFile) ?_ ?_).post
  · rintro _ s - ⟨⟨hcaptures, hjournal, hmanifest⟩, file, node, hfile, hnode, hbytes⟩
    rw [resolve_stashPath hfile] at hnode
    exact ⟨⟨node, hnode, hbytes⟩, hcaptures, hjournal, hmanifest⟩
  · intro file hfile
    rw [resolve_stashPath hfile]
    have hw : Welcome B s₀ (stashFile generation) source.bytes :=
      welcome_other stash_ne_config stash_ne_journal stash_ne_manifest
    apply (hw.publishes (.inr (.inl rfl))).post
    intro s hs
    refine ⟨?_, Published.look_of_ne hs journal_not_isStage stash_ne_journal.symm,
      Published.look_of_ne hs manifest_not_isStage stash_ne_manifest.symm⟩
    obtain ⟨node, -, -, -, hcore⟩ := hs
    exact hcore.1
  · exact fun s hs => ⟨hs.1, hs.2 _ journal_not_isStage, hs.2 _ manifest_not_isStage⟩

section

variable {manifest : StashManifest} {stageName : String} {stageFile : Path}

lemma untouched_exchange {a b : Node} {old : Path} (ha : look s old = some a) (hb : look s new = some b)
    (hea : Expendable B a) (heb : Expendable B b) : Untouched B s (put (put s old b) new a) := by
  have hold : Untouched B s (put s old b) := untouched_put fun o ho => Option.some.inj (ha.symm.trans ho) ▸ hea
  have hnew : Untouched B (put s old b) (put (put s old b) new a) := by
    apply untouched_put
    intro o ho
    rcases look_put_cases ho with ⟨-, rfl⟩ | hsame
    · exact heb
    · exact Option.some.inj (hb.symm.trans hsame) ▸ heb
  exact hold.trans hnew

lemma exchange_manifest {a b : Node} (hp : IsStage stageFile) (hd : stageFile.directory = .state)
    (hholds : StashHolds B s₀ manifest) (hmade : ∃ node, look s₀ manifestFile = some node ∧ node.made)
    (hfound : look s₀ journalFile = found) (hi : Working B s) (hs : SameCore s₀ s) (ha : look s stageFile = some a)
    (hb : look s manifestFile = some b) (hbytes : a.bytes = B.platform.manifestToVec manifest ++ [10]) :
    Allowed (Working B) (Untouched B) (JournalIs found) s (put (put s stageFile b) manifestFile a) := by
  have haMade : a.made := by
    rcases hi.2 stageFile a hp ha with h | ⟨h, -⟩
    · exact h
    · rw [hd] at h
      cases h
  have hbMade : b.made := by
    obtain ⟨node, hnode, hm⟩ := hmade
    have hlook := (hs.2 _ manifest_not_isStage).trans hnode
    exact Option.some.inj (hlook.symm.trans hb) ▸ hm
  have hother : ∀ q, ¬ IsStage q → q ≠ manifestFile →
      look (put (put s stageFile b) manifestFile a) q = look s q := by
    intro q hq hqm
    have hqs : q ≠ stageFile := fun h => hq (h ▸ hp)
    rw [look_put_of_ne hqm, look_put_of_ne hqs]
  have hcarries : Carries B s (put (put s stageFile b) manifestFile a) :=
    { captures := fun _ hn => hn
      stash := fun g node hn => (hother _ (stash_not_isStage g) stash_ne_manifest).trans hn
      manifest := fun _ _ _ => ⟨a, look_put_self _ _ _, haMade⟩
      config := fun node hn => .inl ((hother _ config_not_isStage (by simp)).symm.trans hn) }
  refine ⟨untouched_exchange ha hb (.inl haMade) (.inl hbMade), ⟨hi.1.step hcarries ?_ ?_ ?_, ?_⟩, ?_⟩
  · exact fun node hn => .inl ((hother _ journal_not_isStage (by simp)).symm.trans hn)
  · intro node hn
    obtain rfl : a = node := Option.some.inj
      ((look_put_self (put s stageFile b) manifestFile a).symm.trans hn)
    exact .inr ⟨haMade, manifest, hbytes, (hholds.carries hs.carries).carries hcarries⟩
  · exact fun node hn => .inl ((hother _ marker_not_isStage (by simp)).symm.trans hn)
  · exact (hi.2.put fun _ => .inl hbMade).put fun _ => .inl haMade
  · exact ((hother _ journal_not_isStage (by simp)).trans (hs.2 _ journal_not_isStage)).trans hfound

lemma keeps_replaceManifest {old : Option FileRecord} (hp : isStageName (utf8Bytes stageName)) :
    Keeps B (fun s => JournalIs found s ∧ StashHolds B s manifest ∧
        (old ≠ none → ∃ node, look s manifestFile = some node ∧ node.made))
      (replaceManifest B old (B.platform.manifestToVec manifest ++ [10]) stageName transactionId)
      fun _ => JournalIs found := by
  have hstage : IsStage ⟨.state, utf8Bytes stageName⟩ := ⟨.inr (.inl rfl), hp⟩
  apply keeps_from
  rintro s₀ - ⟨hfound, hholds, hmade⟩
  refine Triple.post (triple_replaceManifest (D := JournalIs found) hp (fun s _ hi hs _ => ?_) ?_ ?_ ?_ ?_)
    fun _ _ _ hs => hs.1
  · exact drop_stage hstage coreOnly_journalIs hi hs
  · have hw : Welcome B s₀ ⟨.state, utf8Bytes stageName⟩ (B.platform.manifestToVec manifest ++ [10]) :=
      welcome_other (fun h => config_not_isStage (h ▸ hstage)) (fun h => journal_not_isStage (h ▸ hstage))
        fun h => manifest_not_isStage (h ▸ hstage)
    exact (hw.publishes (.inr (.inl rfl))).post fun s ⟨_, _, _, _, hcore⟩ => (sameCore_put hstage).trans hcore
  · exact fun hold s a b hi hs => exchange_manifest hstage rfl hholds (hmade hold) hfound hi hs
  · apply ((welcome_manifest hholds).publishes (.inr (.inl rfl))).post
    exact fun s hs => (Published.look_of_ne hs journal_not_isStage (by simp)).trans hfound
  · exact fun s hs => (hs.2 _ journal_not_isStage).trans hfound

end

end Howy.Bridge
