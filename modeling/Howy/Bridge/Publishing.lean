import Howy.Bridge.Observations

namespace Howy.Bridge

open Library Storage

variable {α β : Type} {B : ConfigBridge} {P : World → Prop} {s₀ s : World} {p : Path} {expected : FileRecord}
  {message : String}

variable {handle : Handle} {Q : β → World → Prop} {context : String} {gid mode uid : ℕ} {bytes : Bytes}
  {created node : Node} {files files' : Table Path Node} {metadata : Option FileMetadata}
  {transactionId label : String}

lemma unlinkFile_eq_ok (h : unlinkFile p files = .ok files') :
    (∃ node, files.lookup p = some node) ∧ files' = files.erase p := by
  unfold unlinkFile at h
  split at h
  · cases h
  rename_i node hnode
  split at h
  · cases h
  · exact ⟨⟨node, hnode⟩, (Except.ok.inj h).symm⟩

lemma linkFile_eq_ok (h : linkFile p node files = .ok files') :
    files.lookup p = none ∧ files' = files.insert p { node with nlink := 1 } := by
  unfold linkFile at h
  split at h
  · cases h
  next hnone =>
    exact ⟨hnone, (Except.ok.inj h).symm⟩

lemma renameNoReplaceFiles_eq_ok {old new : Path}
    (h : renameNoReplaceFiles old new files = .ok files') : ∃ node, files.lookup old = some node ∧
      files.lookup new = none ∧ files' = (files.erase old).insert new node := by
  unfold renameNoReplaceFiles at h
  split at h
  · cases h
  · cases h
  next node hold hnew =>
    exact ⟨node, hold, hnew, (Except.ok.inj h).symm⟩

lemma exchangeFiles_eq_ok {old new : Path} (h : exchangeFiles old new files = .ok files') :
    ∃ a b, files.lookup old = some a ∧ files.lookup new = some b ∧ files' = (files.insert old b).insert new a := by
  unfold exchangeFiles at h
  split at h
  next a b ha hb =>
    exact ⟨a, b, ha, hb, (Except.ok.inj h).symm⟩
  · cases h

lemma looks_statHandle : Looks (statHandle handle) := by
  cases handle with
  | unnamed node =>
    apply Reads.andThen looks_fstat
    intro _
    exact reads_pure fun _ => trivial
  | named path =>
    apply Reads.andThen looks_fstat
    intro _
    apply Reads.andThen (reads_query fun _ _ _ _ => trivial)
    intro found
    cases found with
    | none => exact reads_refuse
    | some node => exact reads_pure fun _ => trivial

lemma reads_openUnnamed : Reads (fun _ found => ∀ node, found = some node → node.made) (openUnnamed B mode) := by
  apply reads_query
  intro c s found h node hnode
  split at h
  · cases h
  · rw [← Except.ok.inj h, Option.ite_none_left_eq_some] at hnode
    rw [← Option.some.inj hnode.2]
    rfl

/-- A change that keeps to the guarantee and to the invariant, into a state with `D`. -/
abbrev Allowed (inv : World → Prop) (guar : World → World → Prop) (D : World → Prop) (s s' : World) : Prop :=
  guar s s' ∧ inv s' ∧ D s'

section

variable {inv : World → Prop} {guar : World → World → Prop} [Std.Refl guar] {N D : World → Prop} {q : Path}

lemma triple_change {f : Table Path Node → Except String (Table Path Node)}
    (h : ∀ s files, inv s → P s → f s.files = .ok files → Allowed inv guar D s { s with files := files }) :
    Triple inv guar P (change context f) fun _ => D := by
  apply triple_action
  intro c s hi hs
  cases hc : c.fault with
  | some text => exact ⟨refl s, hi, fun a ha => by cases ha⟩
  | none =>
    cases hf : f s.files with
    | error text => exact ⟨refl s, hi, fun a ha => by cases ha⟩
    | ok files =>
      obtain ⟨hg, hi', hd⟩ := h s files hi hs hf
      exact ⟨hg, hi', fun _ _ => hd⟩

section

variable (h : ∀ s node, inv s → P s → look s p = some node → Allowed inv guar D s (drop s p))

include h

lemma triple_unlinkIdentity {device inode : ℕ} : Triple inv guar P (unlinkIdentity p device inode) fun _ => D := by
  apply Triple.skip reads_lookup
  intro found
  cases found with
  | none => exact triple_throw
  | some current =>
    apply Triple.check
    intro _ _
    apply triple_change
    intro s files hi hs hfiles
    obtain ⟨⟨node, hnode⟩, rfl⟩ := unlinkFile_eq_ok hfiles
    exact h s node hi hs hnode

lemma triple_removeExact : Triple inv guar P (removeExact B p expected) fun _ => D := by
  apply Triple.skip reads_readRegular
  intro found
  cases found with
  | none => exact triple_throw
  | some current =>
    apply Triple.check
    intro _ _
    exact triple_unlinkIdentity h

end

lemma triple_linkAt
    (h : ∀ s node', inv s → P s → look s p = none → node'.made = node.made → node'.bytes = node.bytes →
      Allowed inv guar D s (put s p node')) :
    Triple inv guar P (linkAt p node) fun r s => (r = .ok () → D s) ∧ (r ≠ .ok () → P s) := by
  apply triple_action
  intro c s hi hs
  have hfailed : ∀ (taken : Bool) r, (Except.ok (.error taken) : Except BridgeError (Except Bool Unit)) = .ok r →
      (r = .ok () → D s) ∧ (r ≠ .ok () → P s) := by
    rintro taken _ ⟨⟩
    exact ⟨(fun h => by cases h), fun _ => hs⟩
  cases hc : c.fault with
  | some text => exact ⟨refl s, hi, hfailed _⟩
  | none =>
    cases hl : linkFile p node s.files with
    | error text => exact ⟨refl s, hi, hfailed _⟩
    | ok files =>
      obtain ⟨hnone, rfl⟩ := linkFile_eq_ok hl
      obtain ⟨hg, hi', hd⟩ := h s { node with nlink := 1 } hi hs hnone rfl rfl
      refine ⟨hg, hi', ?_⟩
      rintro _ ⟨⟩
      exact ⟨fun _ => hd, fun h => absurd rfl h⟩

/-- The open file is the bridge's own: one without a name while `P` holds, or the one at `q` while `N` holds. -/
def Owns (P N : World → Prop) (q : Path) (φ : Node → Prop) : Handle → World → Prop
  | .unnamed node, s => P s ∧ node.made = true ∧ φ node
  | .named path, s => path = q ∧ N s ∧ ∃ node, look s path = some node ∧ node.made = true ∧ φ node

lemma Owns.holds {φ : Node → Prop} (h : Owns P P q φ handle s) : P s := by
  cases handle with
  | unnamed node => exact h.1
  | named path => exact h.2.1

lemma triple_openExclusive
    (h : ∀ s node, inv s → P s → look s q = none → node.made → Allowed inv guar N s (put s q node)) :
    Triple inv guar P (openExclusive B context q mode) fun _ => Owns P N q (fun _ => True) (.named q) := by
  apply triple_action
  intro c s hi hs
  cases hc : c.fault with
  | some text => exact ⟨refl s, hi, fun a ha => by cases ha⟩
  | none =>
    cases hl : s.files.lookup q with
    | some node => exact ⟨refl s, hi, fun a ha => by cases ha⟩
    | none =>
      obtain ⟨hg, hi', hn⟩ := h s (newNode B c mode 1) hi hs hl rfl
      exact ⟨hg, hi', fun _ _ => ⟨rfl, hn, _, look_put_self s q _, rfl, trivial⟩⟩

section

variable (hput : ∀ s node, inv s → N s → node.made → Allowed inv guar N s (put s q node))

include hput

lemma triple_onHandle {φ ψ : Node → Prop} {e : Choice → BridgeError} {f failed : Choice → Node → Node}
    (hf : ∀ c node, node.made → φ node → (f c node).made ∧ ψ (f c node))
    (hfailed : ∀ c node, node.made → (failed c node).made) :
    Triple inv guar (Owns P N q φ handle) (onHandle e f failed handle) fun handle => Owns P N q ψ handle := by
  cases handle with
  | unnamed node =>
    have hreads : Reads (fun _ handle => ∃ c, handle = .unnamed (f c node))
        (onHandle e f failed (.unnamed node)) := by
      apply reads_query
      intro c s handle h
      split at h
      · cases h
      · exact ⟨c, (Except.ok.inj h).symm⟩
    apply hreads.triple.post
    rintro _ s - ⟨⟨hs, hmade, hφ⟩, c, rfl⟩
    exact ⟨hs, hf c node hmade hφ⟩
  | named path =>
    apply triple_action
    rintro c s hi ⟨rfl, hs, node, hnode, hmade, hφ⟩
    have hlook : s.files.lookup path = some node := hnode
    rw [hlook]
    cases hc : c.fault with
    | some text =>
      obtain ⟨hg, hi', -⟩ := hput s (failed c node) hi hs (hfailed c node hmade)
      exact ⟨hg, hi', fun a ha => by cases ha⟩
    | none =>
      obtain ⟨hmade', hψ⟩ := hf c node hmade hφ
      obtain ⟨hg, hi', hn⟩ := hput s (f c node) hi hs hmade'
      refine ⟨hg, hi', fun a ha => ?_⟩
      rw [← Except.ok.inj ha]
      exact ⟨rfl, hn, f c node, look_put_self s path _, hmade', hψ⟩

lemma triple_fill {k : Handle → Op β} {ownerContext modeContext writeMessage : String}
    (hk : ∀ handle, Triple inv guar (Owns P N q (fun node => node.bytes = bytes) handle) (k handle) Q) :
    Triple inv guar (Owns P N q (fun _ => True) handle) (do
        let handle ← fchown ownerContext uid gid handle
        let handle ← fchmod modeContext mode handle
        let handle ← writeAll writeMessage bytes handle
        let handle ← setOptionalTimestamps metadata handle
        k handle) Q := by
  let owned (ψ : Node → Prop) := fun handle => Owns P N q ψ handle
  refine .bind (Q := owned fun _ => True) (triple_onHandle hput (fun _ _ hmade h => ⟨hmade, h⟩)
    fun _ _ hmade => hmade) ?_
  refine fun handle => .bind (Q := owned fun _ => True)
    (triple_onHandle hput (fun _ _ hmade h => ⟨hmade, h⟩) fun _ _ hmade => hmade) ?_
  refine fun handle => .bind (Q := owned fun node => node.bytes = bytes)
    (triple_onHandle hput (fun _ _ hmade _ => ⟨hmade, rfl⟩) fun _ _ hmade => hmade) fun handle => ?_
  refine .bind ?_ hk
  cases metadata with
  | none => exact triple_pure fun _ _ hs => hs
  | some metadata => exact triple_onHandle hput (fun _ _ hmade hbytes => ⟨hmade, hbytes⟩) fun _ _ hmade => hmade

lemma triple_createExclusive : Triple inv guar N (createExclusive B q bytes uid gid mode metadata) fun _ => N := by
  refine .bind (triple_openExclusive fun s node hi hs _ => hput s node hi hs) fun _ => triple_fill hput
    fun handle => ?_
  apply Triple.skip looks_quietSystem
  intro _
  apply Triple.skip looks_statHandle
  intro stat
  apply Triple.check
  intro r _
  apply Triple.check
  intro _ _
  exact triple_pure fun s _ hs => hs.holds

end

lemma triple_exchange {old new : Path}
    (h : ∀ s a b, inv s → P s → look s old = some a → look s new = some b →
      Allowed inv guar D s (put (put s old b) new a)) : Triple inv guar P (renameExchange old new) fun _ => D := by
  apply triple_change
  intro s files hi hs hfiles
  obtain ⟨a, b, ha, hb, rfl⟩ := exchangeFiles_eq_ok hfiles
  exact h s a b hi hs ha hb

structure Placed (B : ConfigBridge) (p : Path) (bytes : Bytes) (uid gid mode : ℕ) (s : World) : Prop where
  file : ∃ node r, look s p = some node ∧ node.bytes = bytes ∧ record B.platform node = .ok r ∧
    r.metadata.uid = uid ∧ r.metadata.gid = gid ∧ r.metadata.permissions = mode

lemma Placed.contents (h : Placed B p bytes uid gid mode s) :
    ∃ node, look s p = some node ∧ node.bytes = bytes := by
  obtain ⟨node, r, hnode, hbytes, -⟩ := h.file
  exact ⟨node, hnode, hbytes⟩

/-- The steps of a publication at `p` by way of the private file `q`: from states with `P` into states with `D`,
and through states with `N` while `q` stands. -/
structure Publication (inv : World → Prop) (guar : World → World → Prop) (P N D : World → Prop) (q p : Path)
    (bytes : Bytes) : Prop where
  opens : ∀ s node, inv s → P s → look s q = none → node.made = true → Allowed inv guar N s (put s q node)
  writes : ∀ s node, inv s → N s → node.made = true → Allowed inv guar N s (put s q node)
  drops : ∀ s, inv s → guar s (drop s q) ∧ inv (drop s q)
  links : ∀ s node, inv s → P s → look s p = none → node.made = true → node.bytes = bytes →
    Allowed inv guar D s (put s p node)
  renames : ∀ s node, inv s → N s → look s q = some node → look s p = none → node.made = true →
    node.bytes = bytes → Allowed inv guar D s (put (drop s q) p node)

def Outcome (B : ConfigBridge) (p : Path) (bytes : Bytes) (uid gid mode : ℕ) (D : World → Prop) (s : World) :
    PublishOutcome → Prop
  | .occupied => True
  | .published snapshot => D s ∧ snapshot.bytes = bytes ∧ Placed B p bytes uid gid mode s

section

variable (h : Publication inv guar P N D q p bytes)

include h

lemma triple_giveName : Triple inv guar (Owns P N q (fun node => node.bytes = bytes) handle) (giveName p handle)
    fun named s => named → D s := by
  cases handle with
  | unnamed node =>
    let own := Owns P N q (fun node => node.bytes = bytes) (.unnamed node)
    have hlink : Triple inv guar own (linkAt p node) fun r s => (r = .ok () → D s) ∧ (r ≠ .ok () → own s) :=
      triple_linkAt fun s node' hi hs hnone hmade hbytes =>
        h.links s node' hi hs.1 hnone (hmade.trans hs.2.1) (hbytes.trans hs.2.2)
    apply hlink.bind
    intro r
    cases r with
    | ok u => exact triple_pure fun s _ hs _ => hs.1 rfl
    | error taken =>
      cases taken with
      | true => exact triple_pure fun s _ _ h => by cases h
      | false =>
        apply Triple.pre _ fun s _ hs => hs.2 fun h => by cases h
        apply hlink.bind
        intro r
        cases r with
        | ok u => exact triple_pure fun s _ hs _ => hs.1 rfl
        | error taken => exact triple_pure fun s _ _ h => by cases h
  | named path =>
    refine .bind (Q := fun r s => r = .ok () → D s) (triple_lift ?_ fun e s _ h => by cases h) fun r => ?_
    · refine .post (triple_change ?_) fun _ _ _ hd _ => hd
      rintro s files hi ⟨rfl, hs, own, hown, hmade, hbytes⟩ hfiles
      obtain ⟨node, hold, hnone, rfl⟩ := renameNoReplaceFiles_eq_ok hfiles
      obtain rfl : own = node := Option.some.inj (hown.symm.trans hold)
      exact h.renames s own hi hs hold hnone hmade hbytes
    cases r with
    | ok u => exact triple_pure fun s _ hs _ => hs rfl
    | error e =>
      apply Triple.skip reads_lookup
      intro found
      cases found with
      | some node => exact triple_pure fun s _ _ h => by cases h
      | none => exact triple_throw

lemma triple_publishTemporary : Triple inv guar (Owns P N q (fun node => node.bytes = bytes) handle)
    (publishTemporary B p bytes uid gid mode handle created) fun outcome s =>
    Outcome B p bytes uid gid mode D s outcome := by
  apply (triple_giveName h).bind
  intro named
  cases named with
  | false =>
    apply Triple.skip reads_lookup
    intro found
    cases found with
    | some node => exact triple_pure fun _ _ _ => trivial
    | none => exact triple_throw
  | true =>
    apply Triple.pre _ fun s _ hs => hs rfl
    apply Triple.skip looks_syncDirectory
    intro _
    apply Triple.look reads_readRegular
    intro found
    cases found with
    | none => exact triple_throw
    | some published =>
      apply Triple.check
      intro _ hcheck
      rw [require_eq_ok] at hcheck
      apply triple_pure
      rintro s - ⟨hs, node, hnode, hbytes, hr⟩
      exact ⟨hs, hcheck.2.2.1, node, published.record, hnode, hbytes.symm.trans hcheck.2.2.1, hr, hcheck.2.2.2⟩

lemma triple_cleanUpTemporary {result : Except BridgeError PublishOutcome} {R : PublishOutcome → World → Prop}
    (hhandle : ∀ path, handle = .named path → path = q) (hoccupied : ∀ s, R .occupied s) :
    Triple inv guar (fun s => ∀ outcome, result = .ok outcome → R outcome s)
      (cleanUpTemporary created handle result) fun _ s => ∀ outcome, result = .ok outcome → R outcome s := by
  cases handle with
  | unnamed node => exact triple_id
  | named path =>
    obtain rfl : path = q := hhandle path rfl
    have hremove (e : BridgeError) :
        Triple inv guar (fun _ => True) (cleanUpTemporary created (.named path) (.error e)) fun _ _ => True := by
      apply Triple.skip reads_lookup
      intro found
      cases found with
      | none => exact triple_id
      | some node =>
        refine .bind (triple_unlinkIdentity fun s _ hi _ _ => ?_) fun _ => looks_syncDirectory.keeps
        exact ⟨(h.drops s hi).1, (h.drops s hi).2, trivial⟩
    rcases result with e | (snapshot | _)
    · refine (hremove e).conseq (fun _ _ _ => trivial) fun _ s _ _ outcome houtcome => ?_
      cases houtcome
    · exact triple_id
    · refine (hremove (refused "")).conseq (fun _ _ _ => trivial) fun _ s _ _ outcome houtcome => ?_
      cases houtcome
      exact hoccupied s

end

/-- A publication at `p`, whatever its private file is called, leads from `P` to `D`. -/
def Publishes (B : ConfigBridge) (inv : World → Prop) (guar : World → World → Prop) (P D : World → Prop) (p : Path)
    (bytes : Bytes) : Prop :=
  ∀ uid gid mode metadata transactionId label,
    Triple inv guar P (publishNoreplaceAt B p bytes uid gid mode metadata transactionId label)
      fun outcome s => Outcome B p bytes uid gid mode D s outcome

lemma publishes {N : Path → World → Prop} (h : ∀ transactionId label, Publication inv guar P
      (N (privateFile p.directory transactionId label)) D (privateFile p.directory transactionId label) p bytes) :
    Publishes B inv guar P D p bytes := by
  intro uid gid mode metadata transactionId label
  replace h := h transactionId label
  apply Triple.skip reads_lookup
  intro found
  cases found with
  | some node => exact triple_pure fun _ _ _ => trivial
  | none =>
    let q := privateFile p.directory transactionId label
    refine Triple.bind (Q := fun handle => Owns P (N q) q (fun _ => True) handle) ?_ fun handle => ?_
    · apply Triple.look reads_openUnnamed
      intro found
      cases found with
      | some node => exact triple_pure fun s _ hs => ⟨hs.1, hs.2 node rfl, trivial⟩
      | none =>
        apply Triple.pre _ fun s _ hs => hs.1
        exact (triple_openExclusive h.opens).bind fun _ => triple_pure fun _ _ hs => hs
    refine Triple.bind (Q := fun prepared => Owns P (N q) q (fun node => node.bytes = bytes) prepared.1) ?_ ?_
    · refine triple_fill h.writes fun handle => ?_
      apply Triple.skip looks_quietSystem
      intro _
      apply Triple.skip looks_statHandle
      intro created
      exact triple_pure fun _ _ hs => hs
    rintro ⟨handle, created⟩ s hi hs
    have hhandle : ∀ path, handle = .named path → path = q := by
      rintro path rfl
      exact hs.1
    refine Triple.bind (triple_lift (R := fun result s => ∀ outcome, result = .ok outcome →
      Outcome B p bytes uid gid mode D s outcome) ?_ fun e s _ outcome h => by cases h) (fun result => ?_) s hi hs
    · exact (triple_publishTemporary h).post fun _ _ _ hs outcome he => Except.ok.inj he ▸ hs
    refine .bind (triple_cleanUpTemporary h hhandle fun _ => trivial) fun _ => ?_
    apply reads_fromExcept.triple.post
    rintro outcome s - ⟨hs, rfl⟩
    exact hs outcome rfl

end

lemma Publishes.bind {inv D : World → Prop} {guar : World → World → Prop} {k : PublishOutcome → Op β}
    (h : Publishes B inv guar P D p bytes) (hoccupied : Triple inv guar (fun _ => True) (k .occupied) Q)
    (hk : ∀ snapshot, Triple inv guar (fun s => D s ∧ snapshot.bytes = bytes ∧ Placed B p bytes uid gid mode s)
      (k (.published snapshot)) Q) :
    Triple inv guar P (publishNoreplaceAt B p bytes uid gid mode metadata transactionId label >>= k) Q := by
  apply Triple.bind (h uid gid mode metadata transactionId label)
  intro outcome
  cases outcome with
  | occupied => exact hoccupied
  | published snapshot => exact hk snapshot

lemma Publishes.post {inv D D' : World → Prop} {guar : World → World → Prop} (h : Publishes B inv guar P D p bytes)
    (hD : ∀ s, D s → D' s) : Publishes B inv guar P D' p bytes := by
  intro uid gid mode metadata transactionId label
  apply (h uid gid mode metadata transactionId label).post
  intro outcome s _ hs
  cases outcome with
  | occupied => trivial
  | published snapshot => exact ⟨hD s hs.1, hs.2⟩

abbrev Keeps (B : ConfigBridge) (P : World → Prop) (p : Op α) (Q : α → World → Prop) : Prop :=
  Triple (Working B) (Untouched B) P p Q

instance : Std.Refl (Untouched B) := ⟨Untouched.refl⟩

def CoreOnly (P : World → Prop) : Prop := ∀ s s', SameCore s s' → P s → P s'

lemma coreOnly_sameCore : CoreOnly (SameCore s₀) := fun _ _ h hs => hs.trans h

lemma coreOnly_look {q : Path} (hq : ¬ IsStage q) {found : Option Node} : CoreOnly fun s => look s q = found :=
  fun _ _ h hs => (h.2 q hq).trans hs

lemma put_stage (hp : IsStage p) (hP : CoreOnly P) (hi : Working B s) (hs : P s) (hmade : node.made) :
    Allowed (Working B) (Untouched B) P s (put s p node) :=
  ⟨untouched_put fun _ hold => hi.2.expendable hp hold, hi.put_stage hp (.inl hmade), hP _ _ (sameCore_put hp) hs⟩

lemma drop_stage (hp : IsStage p) (hP : CoreOnly P) (hi : Working B s) (hs : P s) :
    Allowed (Working B) (Untouched B) P s (drop s p) :=
  ⟨untouched_drop fun _ hold => hi.2.expendable hp hold, hi.drop_stage hp, hP _ _ (sameCore_drop hp) hs⟩

lemma untouched_put_new (h : look s p = none) : Untouched B s (put s p node) := by
  apply untouched_put
  intro old hold
  rw [h] at hold
  cases hold

def Published (s₀ : World) (p : Path) (bytes : Bytes) (s : World) : Prop :=
  ∃ node, node.made = true ∧ node.bytes = bytes ∧ look s p = some node ∧ SameCore (put s₀ p node) s

def Welcome (B : ConfigBridge) (s₀ : World) (p : Path) (bytes : Bytes) : Prop :=
  ∀ s node, Working B s → SameCore s₀ s → look s p = none → node.made = true → node.bytes = bytes →
    Working B (put s p node)

lemma Welcome.publishes (hw : Welcome B s₀ p bytes)
    (hd : p.directory = .etcHowy ∨ p.directory = .state ∨ p.directory = .varLib) :
    Publishes B (Working B) (Untouched B) (SameCore s₀) (Published s₀ p bytes) p bytes := by
  refine Bridge.publishes (N := fun _ => SameCore s₀) fun transactionId label => ?_
  have hq : IsStage (privateFile p.directory transactionId label) := privateFile_isStage hd
  refine ⟨fun s node hi hs _ => put_stage hq coreOnly_sameCore hi hs,
    fun s node hi hs => put_stage hq coreOnly_sameCore hi hs,
    fun s hi => ?_, fun s node hi hs hnone hmade hbytes => ?_, fun s node hi hs hnode hnone hmade hbytes => ?_⟩
  · obtain ⟨hg, hi', -⟩ := drop_stage (P := fun _ => True) hq (fun _ _ _ h => h) hi trivial
    exact ⟨hg, hi'⟩
  · exact ⟨untouched_put_new hnone, hw s node hi hs hnone hmade hbytes, node, hmade, hbytes,
      look_put_self s p _, hs.put _⟩
  · have hne : p ≠ privateFile p.directory transactionId label := by
      intro he
      rw [← he, hnone] at hnode
      cases hnode
    have hdrop := (look_drop_of_ne hne).trans hnone
    obtain ⟨hunlinked, hi', hcore⟩ := drop_stage hq coreOnly_sameCore hi hs
    exact ⟨hunlinked.trans (untouched_put_new hdrop), hw _ node hi' hcore hdrop hmade hbytes, node, hmade, hbytes,
      look_put_self _ p _, hcore.put node⟩

end Howy.Bridge
