import FleetOps.Proofs.Store.Standing
import FleetOps.Proofs.Store.Works
import FleetOps.Proofs.Text.Order

/-! Listings of the latest reports. What a window of time shows is a list in the order of the ids,
pages are pieces of it that fit together, and a custom id picks from it before anything is left out
of the reports.
-/

namespace FleetOps

-----------------------------------------------------------------------------------------
-- Windows of time
-----------------------------------------------------------------------------------------

/-- The start of a window of time in 64-bit arithmetic. -/
def windowStart (minutes : UInt32) (now : Int64) : Int64 := now - Int64.ofNat minutes.toNat * 60

/-- A number of minutes is a 64-bit number of seconds. -/
theorem toInt_seconds (minutes : UInt32)
    : (Int64.ofNat minutes.toNat * 60).toInt = minutes.toNat * 60 := by
  have bound := minutes.toNat_lt
  rw [Int64.toInt_mul, Int64.toInt_ofNat_of_lt (by omega)]
  exact Int.bmod_eq_of_le (by simp; omega) (by simp; omega)

/-- From a clock that is not negative no window reaches beyond the 64-bit numbers. -/
theorem toInt_windowStart {now : Int64} (started : 0 ≤ now) (minutes : UInt32)
    : (windowStart minutes now).toInt = now.toInt - minutes.toNat * 60 := by
  have bound := minutes.toNat_lt
  have least : 0 ≤ now.toInt := Int64.le_iff_toInt_le.mp started
  have greatest := now.toInt_lt
  rw [windowStart, Int64.toInt_sub, toInt_seconds]
  exact Int.bmod_eq_of_le (by simp; omega) (by simp; omega)

namespace Report

/-- A report is in the window if there is none, or if it came in after the window began. -/
theorem receivedWithin_iff {report : Report} {minutes : Nat} {now : Int}
    : report.receivedWithin minutes now = true
      ↔ minutes = 0 ∨ now - minutes * 60 ≤ report.receivedAt := by
  simp [receivedWithin]

/-- Whoever was received in a window was received in every wider one. -/
theorem receivedWithin_widen {report : Report} {narrow wide : Nat} {now : Int}
    (window : 0 < narrow) (wider : narrow ≤ wide)
    (received : report.receivedWithin narrow now = true)
    : report.receivedWithin wide now = true := by
  rw [receivedWithin_iff] at received ⊢
  omega

end Report

-----------------------------------------------------------------------------------------
-- Pages
-----------------------------------------------------------------------------------------

namespace Memory

variable {α : Type}

/-- A page with a limit has as many items after the skipped ones. -/
theorem page_limited {limit : Nat} (positive : 0 < limit) (skip : Nat) (items : List α)
    : page skip limit items = (items.drop skip).take limit := by
  rw [page, if_neg (by simp; omega)]

/-- The latest reports that pass a test are those of the window that do. -/
theorem latest_filter (memory : Memory) (minutes : Nat) (now : Int) (keep : Report → Bool)
    : memory.latest minutes now keep
      = (memory.latest minutes now fun _ => true).filter keep := by
  simp only [latest, List.filter_filter, Bool.and_true]
  exact List.filter_congr fun report _ => Bool.and_comm _ _

end Memory

namespace Front

/-- The reports that are collected from a store page by page from an entry on, until a page is
empty.
-/
inductive Collects (size minutes : Nat) (projection : Projection) (now : Int)
    : Nat → Front → List Report → Prop
  | last {skip : Nat} {front later : Front}
    (page : listReports skip size minutes projection now front = (.ok [], later))
    : Collects size minutes projection now skip front []
  | more {skip : Nat} {front later : Front} {first : Report} {rest collected : List Report}
    (page : listReports skip size minutes projection now front = (.ok (first :: rest), later))
    (goesOn : Collects size minutes projection now (skip + size) later collected)
    : Collects size minutes projection now skip front (first :: rest ++ collected)

section

variable {front : Front} {memory : Memory} {size minutes skip : Nat} {projection : Projection}
  {now : Int} {collected : List Report}

/-- A page of a store in order is a piece of what the window shows. -/
theorem IsPlain.listReports (plain : front.IsPlain memory) (positive : 0 < size) (skip : Nat)
    : ∃ later,
        later.IsPlain memory
        ∧ Front.listReports skip size minutes projection now front
          = (.ok ((((memory.latest minutes now fun _ => true).drop skip).take size).map
              (·.project projection)), later) := by
  obtain ⟨answered, later⟩ := plain.perform (.listReports skip size minutes projection now)
  have piece
      : memory.listReports skip size minutes projection now
        = (((memory.latest minutes now fun _ => true).drop skip).take size).map
            (·.project projection) := by
    rw [Memory.listReports, Memory.page_limited positive]
  exact ⟨_, later, Prod.ext (answered.trans (congrArg _ piece)) rfl⟩

/-- What is collected is all that the window shows from the entry on, by induction over the pages.
-/
theorem Collects.eq (collects : Collects size minutes projection now skip front collected)
    (plain : front.IsPlain memory) (positive : 0 < size)
    : collected
      = ((memory.latest minutes now fun _ => true).drop skip).map (·.project projection) := by
  induction collects with
  | last page =>
      obtain ⟨_, _, piece⟩ := plain.listReports positive _
      rw [page] at piece
      have empty := Except.ok.inj (Prod.mk.inj piece).1
      rw [eq_comm, List.map_eq_nil_iff, List.take_eq_nil_iff] at empty
      rw [empty.resolve_left (by omega), List.map_nil]
  | more page goesOn ih =>
      obtain ⟨_, later, piece⟩ := plain.listReports positive _
      rw [page] at piece
      obtain ⟨full, rfl⟩ := Prod.mk.inj piece
      rw [Except.ok.inj full, ih later, ← List.drop_drop, ← List.map_append,
        List.take_append_drop]

/-- The pages come to an end, by induction on how many entries are left. -/
theorem IsPlain.collects (plain : front.IsPlain memory) (positive : 0 < size) (left : Nat)
    (few : ((memory.latest minutes now fun _ => true).drop skip).length ≤ left)
    : ∃ collected, Collects size minutes projection now skip front collected := by
  induction left generalizing front skip with
  | zero =>
      obtain ⟨_, _, piece⟩ := plain.listReports positive _
      rw [List.eq_nil_of_length_eq_zero (Nat.le_zero.mp few), List.take_nil] at piece
      exact ⟨[], .last piece⟩
  | succ left ih =>
      obtain ⟨later, plainLater, piece⟩ := plain.listReports positive skip
      have fewer
          : ((memory.latest minutes now fun _ => true).drop (skip + size)).length ≤ left := by
        simp only [List.length_drop] at few ⊢
        omega
      obtain ⟨collected, goesOn⟩ := ih plainLater fewer
      -- An empty page ends them early, and after any other fewer entries are left.
      cases entries : (((memory.latest minutes now fun _ => true).drop skip).take size).map
          (Report.project · projection) with
      | nil => exact ⟨[], .last (entries ▸ piece)⟩
      | cons first rest => exact ⟨_, .more (entries ▸ piece) goesOn⟩

/-- Pages collect exactly the latest reports from the first one that is not skipped. -/
theorem IsPlain.collects_iff (plain : front.IsPlain memory) (positive : 0 < size)
    : Collects size minutes projection now skip front collected
      ↔ collected
        = ((memory.latest minutes now fun _ => true).drop skip).map (·.project projection) := by
  refine ⟨fun collects => collects.eq plain positive, ?_⟩
  rintro rfl
  obtain ⟨_, collects⟩ := plain.collects positive _ le_rfl
  exact collects.eq plain positive ▸ collects

end

-----------------------------------------------------------------------------------------
-- What a window shows
-----------------------------------------------------------------------------------------

/-- The reports are the latest ones of all nodes that were received in a window of time, in the
order of the bytes of their ids.
-/
structure ShowsLatest (front : Front) (minutes : Nat) (now : Int) (reports : List Report)
    : Prop where
  increasing
    : reports.Pairwise fun left right => Utf8.encode left.id < Utf8.encode right.id
  mem_iff
    : ∀ report,
        report ∈ reports
        ↔ (getReport report.id front).1 = .ok (some report)
          ∧ (minutes = 0 ∨ now - minutes * 60 ≤ report.receivedAt)

/-- Every listing of a window shows a part of the same reports: without a limit all of them, page
by page all of them again, and for a custom id those that have it. A wider window shows them too,
and the one of no minutes shows as many as there are.
-/
structure ListsLatest (front : Front) (minutes : Nat) (now : Int) (reports : List Report)
    : Prop where
  shows : front.ShowsLatest minutes now reports
  unlimited
    : ∀ projection,
        (listReports 0 0 minutes projection now front).1
        = .ok (reports.map (·.project projection))
  paged
    : ∀ projection size,
        0 < size
        → ∀ collected,
            Collects size minutes projection now 0 front collected
            ↔ collected = reports.map (·.project projection)
  ofCustomId
    : ∀ projection customId,
        (listByCustomId customId minutes projection now front).1
        = .ok ((reports.filter (·.customId == customId)).map (·.project projection))
  wider
    : ∀ projection wide,
        0 < minutes
        → minutes ≤ wide
        → ∃ more,
            (listReports 0 0 wide projection now front).1 = .ok more
            ∧ (reports.map (·.project projection)).Sublist more
  whole : minutes = 0 → (countReports front).1 = .ok reports.length

section

variable {front : Front} {memory : Memory}

/-- With a cache or without one, a store shows the latest reports among its contents. -/
theorem Works.showsLatest (works : front.Works) (filed : front.memory.reports.FiledBy (·.id))
    (minutes : Nat) (now : Int)
    : front.ShowsLatest minutes now (front.memory.latest minutes now fun _ => true) where
  increasing := by
    refine List.Pairwise.filter _ (filed.values_increasing.imp fun first => ?_)
    exact Text.before_iff_bytes_lt.mp first
  mem_iff report := by
    have found : (getReport report.id front).1 = .ok (front.memory.reports.get? report.id) :=
      works.answer (.getReport report.id) rfl
    simp only [found, Except.ok.injEq, Memory.latest, List.mem_filter, Bool.and_true,
      filed.mem_values, Report.receivedWithin_iff]

/-- A plain store over filed reports lists the latest ones. -/
theorem IsPlain.listsLatest (plain : front.IsPlain memory)
    (filed : memory.reports.FiledBy (·.id)) (minutes : Nat) (now : Int)
    : front.ListsLatest minutes now (memory.latest minutes now fun _ => true) where
  shows := by
    have contents := plain.memory_eq
    subst contents
    exact plain.works.showsLatest filed minutes now
  unlimited projection := (plain.perform (.listReports 0 0 minutes projection now)).1
  paged projection size positive collected := by
    rw [plain.collects_iff positive, List.drop_zero]
  ofCustomId projection customId := by
    rw [← memory.latest_filter]
    exact (plain.perform (.listByCustomId customId minutes projection now)).1
  wider projection wide window wider := by
    refine ⟨_, (plain.perform (.listReports 0 0 wide projection now)).1, List.Sublist.map _ ?_⟩
    refine List.monotone_filter_right _ fun report received => ?_
    simp only [Bool.and_true] at received ⊢
    exact Report.receivedWithin_widen window wider received
  whole := by
    rintro rfl
    have counted : (countReports front).1 = .ok memory.reports.size :=
      (plain.perform .countReports).1
    rw [counted]
    simp [Memory.latest, Report.receivedWithin, Table.values, Table.size]

end

/-- After any deeds on a store without a cache that was empty, the listings of every window at
every time show the latest reports of the window. The start of the window is found without an
overflow from every clock that is not negative.
-/
theorem plain_listsLatest (deeds : List Deed)
    : (∀ minutes now,
        ∃ reports, ((plain .empty).afterDeeds deeds).ListsLatest minutes now reports)
      ∧ ∀ (minutes : UInt32) (now received : Int64) (report : Report),
          0 ≤ now
          → (Int64.ofNat minutes.toNat * 60).toInt = minutes.toNat * 60
            ∧ (windowStart minutes now).toInt = now.toInt - minutes.toNat * 60
            ∧ ({ report with receivedAt := received.toInt }.receivedWithin minutes.toNat now.toInt
              = (minutes == 0 || decide (windowStart minutes now ≤ received))) := by
  refine ⟨fun minutes now => ?_, fun minutes now received report started => ?_⟩
  · have filed : ((Memory.empty.after (deeds.flatMap Deed.requests)).reports.FiledBy (·.id)) :=
      Memory.Recounts.empty.after.reports.filed
    exact ⟨_, ((plain_isPlain .empty).afterDeeds deeds).listsLatest filed minutes now⟩
  · refine ⟨toInt_seconds minutes, toInt_windowStart started minutes, ?_⟩
    rw [Bool.eq_iff_iff, Report.receivedWithin_iff, ← toInt_windowStart started]
    simp [Int64.le_iff_toInt_le, ← UInt32.toNat_inj]

end Front

end FleetOps
