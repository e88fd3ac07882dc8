import Howy.Library.Traces
import Howy.Storage.Mode1ReadingSpec
import Howy.Storage.PlaintextFiles

namespace Howy.Storage.PlaintextReading

open Library Plaintext PlaintextFiles
open Mode1 (openNode)

variable (backend : PlaintextStorageBackend) {A : Choice → Prop} {P : Shared Disk → Prop}
  {F : StorageBackendError → Prop} {u : CanonicalUsername} {bin json : Option FileNode} {name : Name}

def Tolerates (A : Choice → Prop) (F : StorageBackendError → Prop) : Prop :=
  (∀ e, e ≠ .absent → F e) ∨ ∀ c, A c → c.FaultFree

lemma fault_kind_ne_notFound {fault : Fault} : fault.kind ≠ .notFound := by
  cases fault <;> decide

lemma finds_reading {α : Type} (hF : Tolerates A F) {operation : IoOperation} {x : BackendResult α} :
    Finds A P F x (PlaintextFiles.reading operation x) := by
  apply finds_query
  intro c s hc _
  cases hf : c.fault with
  | none => exact .inl rfl
  | some fault =>
    rcases hF with hF | hA
    · exact .inr ⟨_, hF _ (by simp), rfl⟩
    · rw [(hA c hc).fault] at hf
      cases hf

lemma finds_tryReserve (hF : Tolerates A F) {e : StorageBackendError} (he : e ≠ .absent) :
    Finds A P F (.ok ()) (tryReserve e : Op Disk Unit) := by
  apply finds_query
  intro c s hc _
  rcases hF with hF | hA
  · by_cases h : c.exhausted
    · exact .inr ⟨e, hF e he, by rw [h, if_pos rfl]⟩
    · exact .inl (if_neg h)
  · exact .inl (by rw [(hA c hc).exhausted]; rfl)

def decodeSource (u : CanonicalUsername) (source : FileNode × LegacySourceEncoding) :
    BackendResult DecodedPlaintextRecord := do
  validateRecordFile backend source.1
  (decodePlaintextRecord backend source.1.contents source.2 u).mapError mapStorageError

lemma finds_decodeSource (hF : Tolerates A F) {source : FileNode × LegacySourceEncoding} :
    Finds A P F (decodeSource backend u source) (do
      let bytes ← PlaintextFiles.readSource backend source.1
      fromExcept ((decodePlaintextRecord backend bytes source.2 u).mapError mapStorageError)) := by
  have hsplit : decodeSource backend u source = (do
      let _ ← validateRecordFile backend source.1
      .ok source.1.contents) >>= fun bytes => (decodePlaintextRecord backend bytes source.2 u).mapError
        mapStorageError := by
    rw [decodeSource]
    cases validateRecordFile backend source.1 <;> rfl
  rw [hsplit]
  refine .bind ?_ fun bytes _ => .inl rfl
  refine (finds_reading hF).bind fun _ _ => ?_
  exact (finds_tryReserve hF (by simp)).ok_bind (finds_reading hF)

def sourceOf (bin json : Option FileNode) : BackendResult (FileNode × LegacySourceEncoding) :=
  match openNode bin with
  | .ok file => .ok (file, .bincodeThenJson)
  | .error .notFound =>
    match openNode json with
    | .ok file => .ok (file, .jsonOnly)
    | .error .notFound => .error .absent
    | .error kind => .error (.io .open kind)
  | .error kind => .error (.io .open kind)

lemma loadRecord_eq (u : CanonicalUsername) (bin json : Option FileNode) :
    Plaintext.loadRecord backend u bin json = sourceOf bin json >>= decodeSource backend u := by
  have hread : ∀ (file : FileNode) (encoding : LegacySourceEncoding), (do
      let bytes ← Plaintext.readSource backend file
      (decodePlaintextRecord backend bytes encoding u).mapError mapStorageError) =
      if file.kind = .symlink then .error (.io .open .other) else decodeSource backend u (file, encoding) := by
    intro file encoding
    by_cases hk : file.kind = .symlink
    · rw [Plaintext.readSource, failIf, hk]
      rfl
    simp only [Plaintext.readSource, decodeSource, validateRecordFile, validateMetadata, failIf, hk, if_false]
    split
    · rfl
    · split <;> rfl
  cases bin with
  | some file =>
    simp only [Plaintext.loadRecord, sourceOf, openNode, pure_bind, hread]
    split <;> rfl
  | none =>
    cases json with
    | none => rfl
    | some file =>
      simp only [Plaintext.loadRecord, sourceOf, openNode, pure_bind, hread]
      split <;> rfl

def Holds (u : CanonicalUsername) (bin json : Option FileNode) (s : Shared Disk) : Prop :=
  s.disk.lookup (binName u) = bin ∧ s.disk.lookup (jsonName u) = json

lemma within_openRecord (hF : Tolerates A F) {node : Option FileNode}
    (hP : ∀ s, P s → s.disk.lookup name = node) (bad : StorageBackendError → Prop) :
    Within A Eq P (OnResult (fun v => v = openNode node ∨ ∃ kind, kind ≠ .notFound ∧ F (.io .open kind) ∧
      v = .error kind) bad) (openRecord name).run := by
  apply within_query (fun _ => rfl)
  intro c s hc hs
  rw [hP s hs]
  cases hf : c.fault with
  | some fault =>
    rcases hF with hF | hA
    · exact .inr ⟨_, fault_kind_ne_notFound, hF _ (by simp), rfl⟩
    · rw [(hA c hc).fault] at hf
      cases hf
  | none =>
    cases node with
    | none => exact .inl rfl
    | some file => by_cases hk : file.kind = .symlink <;> simp [openNode, hk, OnResult]

lemma finds_openSource (hF : Tolerates A F) : Finds A (Holds u bin json) F (sourceOf bin json) (openSource u) := by
  refine Within.bindE (within_openRecord hF (fun _ hs => hs.1) _) fun opened hopened => ?_
  rcases hopened with rfl | ⟨kind, hne, hkind, rfl⟩
  · cases hnode : openNode bin with
    | ok file => exact .inl (by rw [sourceOf, hnode])
    | error kind =>
      cases kind with
      | notFound =>
        refine Within.bindE (within_openRecord hF (fun _ hs => hs.2) _) fun opened hopened => ?_
        rw [sourceOf, hnode]
        rcases hopened with rfl | ⟨kind, hne, hkind, rfl⟩
        · cases hfallback : openNode json with
          | ok file => exact .inl rfl
          | error kind => cases kind <;> exact .inl rfl
        · cases kind <;> first | exact absurd rfl hne | exact .inr ⟨_, hkind, rfl⟩
      | _ => exact .inl (by rw [sourceOf, hnode])
  · cases kind <;> first | exact absurd rfl hne | exact .inr ⟨_, hkind, rfl⟩

lemma finds_loadRecord (hF : Tolerates A F) :
    Finds A (Holds u bin json) F (Plaintext.loadRecord backend u bin json)
    (PlaintextFiles.loadRecord backend u) := by
  rw [loadRecord_eq]
  exact (finds_openSource hF).bind fun source _ => finds_decodeSource backend hF

variable {trace rest : List (Shared Disk)}

lemma watches_openRecord {r : BackendResult (Except IoKind FileNode)}
    (h : Watches Choice.FaultFree (openRecord name).run trace r rest) :
    ∃ s later, (s :: later) <:+ trace ∧ rest <:+ (s :: later) ∧ r = .ok (openNode (s.disk.lookup name)) := by
  obtain ⟨s, later, c, hs, hrest, hc, rfl⟩ := watches_query h
  refine ⟨s, later, hs, hrest, ?_⟩
  rw [hc.fault]
  cases s.disk.lookup name with
  | none => rfl
  | some file =>
    simp only [openNode]
    split <;> rfl

structure Sees (u : CanonicalUsername) (trace : List (Shared Disk)) (bin json : Option FileNode) : Prop where
  looked : ∃ s later t, (s :: later) <:+ trace ∧ t ∈ s :: later ∧ s.disk.lookup (binName u) = bin ∧
    t.disk.lookup (jsonName u) = json

lemma watches_openSource {r : BackendResult (FileNode × LegacySourceEncoding)}
    (h : Watches Choice.FaultFree (openSource u).run trace r rest) :
    ∃ bin json, Sees u trace bin json ∧ r = sourceOf bin json := by
  rcases watches_bindE h with ⟨opened, mid, hopen, hk⟩ | ⟨e, mid, hopen, rfl⟩
  · obtain ⟨s, later, hs, hmid, hopened⟩ := watches_openRecord hopen
    cases hopened
    have hstay : Sees u trace (s.disk.lookup (binName u)) (s.disk.lookup (jsonName u)) :=
      ⟨s, later, s, hs, List.mem_cons_self, rfl, rfl⟩
    cases hnode : openNode (s.disk.lookup (binName u)) with
    | ok file =>
      rw [hnode] at hk
      exact ⟨_, _, hstay, by rw [sourceOf, hnode]; exact watches_done hk⟩
    | error kind =>
      rw [hnode] at hk
      by_cases hkind : kind = .notFound
      · subst hkind
        rcases watches_bindE hk with ⟨opened, mid', hopen', hk'⟩ | ⟨e, mid', hopen', rfl⟩
        · obtain ⟨t, later', ht, -, hopened'⟩ := watches_openRecord hopen'
          cases hopened'
          have hmem := (ht.trans hmid).subset List.mem_cons_self
          refine ⟨_, _, ⟨s, later, t, hs, hmem, rfl, rfl⟩, ?_⟩
          rw [sourceOf, hnode]
          cases hfallback : openNode (t.disk.lookup (jsonName u)) with
          | ok file =>
            rw [hfallback] at hk'
            exact watches_done hk'
          | error kind =>
            rw [hfallback] at hk'
            cases kind <;> exact watches_done hk'
        · obtain ⟨t, later', -, -, hopened'⟩ := watches_openRecord hopen'
          cases hopened'
      · refine ⟨_, _, hstay, ?_⟩
        rw [sourceOf, hnode]
        cases kind <;> first | exact absurd rfl hkind | exact watches_done hk
  · obtain ⟨s, later, hs, hmid, hopened⟩ := watches_openRecord hopen
    cases hopened

lemma watches_loadRecord {r : BackendResult DecodedPlaintextRecord}
    (h : Watches Choice.FaultFree (PlaintextFiles.loadRecord backend u).run trace r rest) :
    ∃ bin json, Sees u trace bin json ∧ r = Plaintext.loadRecord backend u bin json := by
  rcases watches_bindE h with ⟨source, mid, hsource, hk⟩ | ⟨e, mid, hsource, rfl⟩
  · obtain ⟨bin, json, hsees, hs⟩ := watches_openSource hsource
    refine ⟨bin, json, hsees, ?_⟩
    rw [loadRecord_eq, ← hs]
    rcases watches_within (finds_decodeSource (F := fun _ => False) backend (.inr fun _ hc => hc)) hk
      with hr | ⟨e, he, -⟩
    · exact hr
    · exact he.elim
  · obtain ⟨bin, json, hsees, hs⟩ := watches_openSource hsource
    exact ⟨bin, json, hsees, by rw [loadRecord_eq, ← hs]; rfl⟩

end Howy.Storage.PlaintextReading
