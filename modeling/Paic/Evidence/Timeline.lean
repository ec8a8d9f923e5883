import Paic.Lib.Sorted
import Paic.Platform
import Mathlib

/-!
# The incident timeline

`_build_timeline` puts the evidence of the context window between the markers
of the incident, in the order of time, and numbers the rows.
-/

namespace Paic.Evidence

open Sorted (byKey Strict)

/-- `IncidentContext`, as far as the timeline reads it. -/
structure IncidentContext where
  incidentId : String
  family : String
  startedAt : Datetime
  endedAt : Datetime
  contextBeforeHours : Nat
  contextAfterHours : Nat
  deriving DecidableEq

/-- A row of `evidence_records`, as far as the timeline reads it. Moments in
tables are in UTC. -/
structure EvidenceRecord where
  evidenceRecordId : String
  observedAt : Int
  evidenceType : String
  sourceName : String
  title : String
  summary : String
  deriving DecidableEq

/-- An entry of `timeline`. `evidence_record_ids_json` is the JSON text of the ids. -/
structure TimelineItem where
  occurredAt : Datetime
  eventType : String
  source : String
  title : String
  detail : String
  evidenceRecordIds : List String
  deriving DecidableEq

/-- A row of `incident_timeline`. -/
structure TimelineRow extends TimelineItem where
  timelineEventId : String
  incidentId : String
  sequence : Nat
  deriving DecidableEq

def hour : Int := 3600000000

def IncidentContext.lower (c : IncidentContext) : Int :=
  c.startedAt.instant - c.contextBeforeHours * hour

def IncidentContext.upper (c : IncidentContext) : Int :=
  c.endedAt.instant + c.contextAfterHours * hour

/-- The record was observed in the context window. -/
def IncidentContext.Covers (c : IncidentContext) (r : EvidenceRecord) : Prop :=
  c.lower ≤ r.observedAt ∧ r.observedAt ≤ c.upper

instance (c : IncidentContext) (r : EvidenceRecord) : Decidable (c.Covers r) :=
  inferInstanceAs (Decidable (_ ∧ _))

/-- A moment of a table. -/
def utc (instant : Int) : Datetime := ⟨instant, some 0⟩

/-- The entry of a record. -/
def EvidenceRecord.item (r : EvidenceRecord) : TimelineItem where
  occurredAt := utc r.observedAt
  eventType := r.evidenceType
  source := r.sourceName
  title := r.title
  detail := r.summary
  evidenceRecordIds := [r.evidenceRecordId]

/-- The two entries that are there from the beginning. -/
def IncidentContext.markers (c : IncidentContext) : List TimelineItem :=
  [{ occurredAt := c.startedAt
     eventType := "incident_started"
     source := "incident_context"
     title := "Incident started"
     detail := c.family
     evidenceRecordIds := [] },
   { occurredAt := c.endedAt
     eventType := "incident_ended"
     source := "incident_context"
     title := "Incident ended"
     detail := c.family
     evidenceRecordIds := [] }]

def EvidenceRecord.key (r : EvidenceRecord) : Int ×ₗ String :=
  toLex (r.observedAt, r.evidenceRecordId)

/-- `(item["occurred_at"], item["event_type"], item["title"])` -/
def TimelineItem.key (i : TimelineItem) : Int ×ₗ (String ×ₗ String) :=
  toLex (i.occurredAt.instant, toLex (i.eventType, i.title))

/-- `selected` -/
def selectedRecords (c : IncidentContext) (records : List EvidenceRecord) : List EvidenceRecord :=
  byKey EvidenceRecord.key (records.filter fun r => c.Covers r)

/-- `timeline`, sorted. The sort is stable. -/
def timelineItems (c : IncidentContext) (records : List EvidenceRecord) : List TimelineItem :=
  byKey TimelineItem.key (c.markers ++ (selectedRecords c records).map EvidenceRecord.item)

/-- The cast of `occurred_at` to a moment in UTC. -/
def TimelineItem.conformed (i : TimelineItem) : TimelineItem :=
  { i with occurredAt := utc i.occurredAt.instant }

section
variable [Hashing]

/-- `_stable_id` -/
def stableId (pre : String) (value : Json) : String :=
  pre ++ "-" ++ String.ofList ((digest value).toList.take 20)

/-- The body of the loop that numbers the entries. -/
def timelineRow (c : IncidentContext) (item : TimelineItem) (sequence : Nat) : TimelineRow :=
  { item.conformed with
    timelineEventId := stableId "TML" (.obj [("sequence", .int sequence),
      ("occurred_at", .str (strDatetime item.occurredAt)), ("title", .str item.title)])
    incidentId := c.incidentId
    sequence }

/-- `_build_timeline` -/
def buildTimeline (c : IncidentContext) (records : List EvidenceRecord) : List TimelineRow :=
  byKey TimelineRow.sequence
    (((timelineItems c records).zipIdx 1).map fun entry => timelineRow c entry.1 entry.2)

end

/-- A row for each record of the window and for each marker, numbered in the order
of time. -/
structure TimelineComplete (c : IncidentContext) (records : List EvidenceRecord)
    (rows : List TimelineRow) : Prop where
  numbered : rows.map TimelineRow.sequence = List.range' 1 rows.length
  ordered : rows.Pairwise fun row row' => row.occurredAt.instant ≤ row'.occurredAt.instant
  items : (rows.map TimelineRow.toTimelineItem).Perm
    ((c.markers ++ (records.filter fun r => c.Covers r).map EvidenceRecord.item).map
      TimelineItem.conformed)
  once : ∀ r ∈ records, (rows.filter fun row => row.evidenceRecordIds = [r.evidenceRecordId]).map
    TimelineRow.toTimelineItem = if c.Covers r then [r.item] else []
  references : ∀ row ∈ rows, row.evidenceRecordIds = [] ∨
    ∃ r ∈ records, c.Covers r ∧ row.toTimelineItem = r.item

section
variable [Hashing] {c : IncidentContext} {records : List EvidenceRecord}

/-- The rows are numbered in their order already. -/
theorem buildTimeline_eq (c : IncidentContext) (records : List EvidenceRecord) :
    buildTimeline c records =
      ((timelineItems c records).zipIdx 1).map fun entry => timelineRow c entry.1 entry.2 := by
  refine Strict.byKey_eq ?_
  have hnumbers : (((timelineItems c records).zipIdx 1).map Prod.snd).Pairwise (· < ·) := by
    rw [List.zipIdx_map_snd]
    exact List.pairwise_lt_range'
  rw [Strict, List.pairwise_map]
  exact List.pairwise_map.mp hnumbers

theorem buildTimeline_items (c : IncidentContext) (records : List EvidenceRecord) :
    (buildTimeline c records).map TimelineRow.toTimelineItem =
      (timelineItems c records).map TimelineItem.conformed := by
  rw [buildTimeline_eq, List.map_map]
  have hzip : ((timelineItems c records).zipIdx 1).map Prod.fst = timelineItems c records :=
    List.zipIdx_map_fst _ _
  conv_rhs => rw [← hzip]
  rw [List.map_map]
  rfl

omit [Hashing] in
theorem timelineItems_perm (c : IncidentContext) (records : List EvidenceRecord) :
    (timelineItems c records).Perm
      (c.markers ++ (records.filter fun r => c.Covers r).map EvidenceRecord.item) :=
  (Sorted.byKey_perm _ _).trans (((Sorted.byKey_perm _ _).map _).append_left _)

omit [Hashing] in
theorem key_nodup (hids : (records.map EvidenceRecord.evidenceRecordId).Nodup) :
    (records.map EvidenceRecord.key).Nodup := by
  refine List.Nodup.of_map (fun key => (ofLex key).2) ?_
  rwa [List.map_map]

/-- The records may come in any order. -/
theorem buildTimeline_perm (hids : (records.map EvidenceRecord.evidenceRecordId).Nodup)
    (hperm : records'.Perm records) : buildTimeline c records' = buildTimeline c records := by
  have hkeys : ((records'.filter fun r => c.Covers r).map EvidenceRecord.key).Nodup := by
    have hids' : (records'.map EvidenceRecord.evidenceRecordId).Nodup :=
      (hperm.map _).nodup_iff.mpr hids
    exact (key_nodup hids').sublist (List.filter_sublist.map _)
  have hselected : selectedRecords c records' = selectedRecords c records :=
    Sorted.byKey_congr hkeys (hperm.filter _)
  rw [buildTimeline, timelineItems, hselected]
  rfl

omit [Hashing] in
/-- A record is the only one with its id. -/
theorem filter_id (hids : (records.map EvidenceRecord.evidenceRecordId).Nodup) (hr : r ∈ records) :
    records.filter (fun r' => r'.evidenceRecordId = r.evidenceRecordId) = [r] := by
  have hsame : records.filter (fun r' => r'.evidenceRecordId = r.evidenceRecordId) =
      records.filter fun r' => r' = r := by
    refine List.filter_congr fun r' hr' => decide_eq_decide.mpr ?_
    exact ⟨List.inj_on_of_nodup_map hids hr' hr, fun h => h ▸ rfl⟩
  rw [hsame, List.filter_eq, List.count_eq_one_of_mem hids.of_map hr]
  rfl

theorem buildTimeline_complete (hids : (records.map EvidenceRecord.evidenceRecordId).Nodup) :
    TimelineComplete c records (buildTimeline c records) := by
  have hitems := buildTimeline_items c records
  have hperm : ((buildTimeline c records).map TimelineRow.toTimelineItem).Perm
      ((c.markers ++ (records.filter fun r => c.Covers r).map EvidenceRecord.item).map
        TimelineItem.conformed) := by
    rw [hitems]
    exact (timelineItems_perm c records).map _
  constructor
  case numbered =>
    have hnumbers : (((timelineItems c records).zipIdx 1).map Prod.snd) =
        List.range' 1 (timelineItems c records).length := List.zipIdx_map_snd _ _
    rw [buildTimeline_eq, List.map_map, List.length_map, List.length_zipIdx, ← hnumbers]
    rfl
  case ordered =>
    have hsorted := Sorted.byKey_sorted TimelineItem.key
      (c.markers ++ (selectedRecords c records).map EvidenceRecord.item)
    have htimes : ((timelineItems c records).map fun i => i.occurredAt.instant).Pairwise
        (· ≤ ·) := by
      rw [List.pairwise_map]
      exact hsorted.imp fun hle => Prod.Lex.monotone_fst _ _ hle
    have hrows : (buildTimeline c records).map (fun row => row.occurredAt.instant) =
        (timelineItems c records).map fun i => i.occurredAt.instant := by
      have h := congrArg (List.map fun i : TimelineItem => i.occurredAt.instant) hitems
      rwa [List.map_map, List.map_map] at h
    rw [← hrows, List.pairwise_map] at htimes
    exact htimes
  case items => exact hperm
  case once =>
    intro r hr
    have hfilter : ((buildTimeline c records).filter fun row =>
        row.evidenceRecordIds = [r.evidenceRecordId]).map TimelineRow.toTimelineItem =
        ((buildTimeline c records).map TimelineRow.toTimelineItem).filter fun i =>
          i.evidenceRecordIds = [r.evidenceRecordId] := by
      rw [List.filter_map]
      rfl
    have hone : (records.filter fun r' => c.Covers r').filter
        (fun r' => r'.evidenceRecordId = r.evidenceRecordId) =
        if c.Covers r then [r] else [] := by
      rw [List.filter_comm, filter_id hids hr, List.filter_singleton]
      by_cases hc : c.Covers r
      · simp [hc]
      · simp [hc]
    have hmarkers : (c.markers.map TimelineItem.conformed).filter
        (fun i => i.evidenceRecordIds = [r.evidenceRecordId]) = [] := by
      simp [IncidentContext.markers, TimelineItem.conformed]
    have hrecords : (((records.filter fun r => c.Covers r).map EvidenceRecord.item).map
        TimelineItem.conformed).filter (fun i => i.evidenceRecordIds = [r.evidenceRecordId]) =
        if c.Covers r then [r.item] else [] := by
      have hids : ∀ r' : EvidenceRecord, (r'.item.evidenceRecordIds = [r.evidenceRecordId]) =
          (r'.evidenceRecordId = r.evidenceRecordId) := fun r' => by simp [EvidenceRecord.item]
      rw [List.map_map, List.filter_map]
      change List.map _ (List.filter (fun r' : EvidenceRecord =>
        decide (r'.item.evidenceRecordIds = [r.evidenceRecordId])) _) = _
      simp only [hids, hone]
      split <;> rfl
    have hsplit := hperm.filter fun i => decide (i.evidenceRecordIds = [r.evidenceRecordId])
    rw [List.map_append, List.filter_append, hmarkers, List.nil_append, hrecords] at hsplit
    rw [hfilter]
    split at hsplit
    · rw [if_pos ‹_›]
      exact List.perm_singleton.mp hsplit
    · rw [if_neg ‹_›]
      exact List.perm_nil.mp hsplit
  case references =>
    intro row hrow
    have hmem := hperm.mem_iff.mp (List.mem_map_of_mem hrow)
    obtain ⟨i, hi, heq⟩ := List.mem_map.mp hmem
    rcases List.mem_append.mp hi with hmarker | hrecord
    · left
      have hnone : ∀ i ∈ c.markers, i.evidenceRecordIds = [] := by
        simp [IncidentContext.markers]
      exact (congrArg TimelineItem.evidenceRecordIds heq).symm.trans (hnone i hmarker)
    · right
      obtain ⟨r, hr, rfl⟩ := List.mem_map.mp hrecord
      obtain ⟨hr, hcovers⟩ := List.mem_filter.mp hr
      exact ⟨r, hr, of_decide_eq_true hcovers, heq.symm⟩

end

-- ---------------------------------------------------------------------------
-- Records at the edges of the window
-- ---------------------------------------------------------------------------

namespace Sample

/-- An hour, with an hour before it and after it. -/
def incident : IncidentContext where
  incidentId := "incident"
  family := "checkout"
  startedAt := ⟨2 * hour, some 7200⟩
  endedAt := ⟨3 * hour, some 0⟩
  contextBeforeHours := 1
  contextAfterHours := 1

def record (id : String) (observedAt : Int) : EvidenceRecord where
  evidenceRecordId := id
  observedAt := observedAt
  evidenceType := "deployment"
  sourceName := "deployments"
  title := "Deployment"
  summary := "Deployed."

/-- On both edges of the window, at the start of the incident, and too late. -/
def records : List EvidenceRecord :=
  [record "late" (4 * hour + 1), record "after" (4 * hour), record "at" (2 * hour),
    record "before" hour]

end Sample

example : (timelineItems Sample.incident Sample.records).map (·.evidenceRecordIds) =
    [["before"], ["at"], [], [], ["after"]] := by decide +kernel

end Paic.Evidence
