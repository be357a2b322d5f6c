import Accelerator.Model.Edits
import Accelerator.Model.Lattice.Equality
import Accelerator.Record

/-!
# The record types

The 21 record types, each known by a name (`RecordKind`). What holds of all of them is stated of a
`RecordKind` and the type of its records.
-/

namespace Accelerator

instance : Record PhaseSpace where
  name := "coord"
  shape := PhaseSpace.shape
  edits := some PhaseSpace.edits

instance : Record Twiss where
  name := "twiss"
  shape := Twiss.shape

instance : Record Dispersion where
  name := "xy_disp"
  shape := Dispersion.shape

instance : Record FloorPosition where
  name := "floor_position"
  shape := FloorPosition.shape

instance : Record WigglerTerm where
  name := "wig_term"
  shape := WigglerTerm.shape

instance : Record TaylorTerm where
  name := "taylor_term"
  shape := TaylorTerm.shape
  edits := some TaylorTerm.edits

instance : Record TaylorSeries where
  name := "taylor"
  shape := TaylorSeries.shape
  edits := some TaylorSeries.edits

instance : Record WakeSample where
  name := "sr_table_wake"
  shape := WakeSample.shape

instance : Record PseudoMode where
  name := "sr_mode_wake"
  shape := PseudoMode.shape

instance : Record CavityMode where
  name := "lr_wake"
  shape := CavityMode.shape

instance : Record Wakefield where
  name := "wake"
  shape := Wakefield.shape
  edits := some Wakefield.edits

instance : Record ControlLink where
  name := "control"
  shape := ControlLink.shape

instance : Record BeamParameters where
  name := "param"
  shape := BeamParameters.shape
  edits := some BeamParameters.edits

instance : Record NormalMode where
  name := "amode"
  shape := NormalMode.shape

instance : Record LinacIntegrals where
  name := "linac_mode"
  shape := LinacIntegrals.shape

instance : Record RadiationIntegrals where
  name := "modes"
  shape := RadiationIntegrals.shape
  edits := some RadiationIntegrals.edits

instance : Record TrackingSettings where
  name := "common_settings"
  shape := TrackingSettings.shape
  edits := some TrackingSettings.edits

instance : Record FieldSample where
  name := "em_field"
  shape := FieldSample.shape
  edits := some FieldSample.edits

instance : Record PlaneSummary where
  name := "mode_info"
  shape := PlaneSummary.shape

instance : Record Element where
  name := "ele"
  shape := Element.shape
  edits := some Element.edits

instance : Record Lattice where
  name := "lat"
  shape := Lattice.shape
  blank := Lattice.blank
  pattern := Lattice.pattern
  compare := Lattice.compare
  edits := some Lattice.edits

/-- The record types. -/
inductive RecordKind where
  | phaseSpace
  | twiss
  | dispersion
  | floorPosition
  | wigglerTerm
  | taylorTerm
  | taylorSeries
  | wakeSample
  | pseudoMode
  | cavityMode
  | wakefield
  | controlLink
  | beamParameters
  | normalMode
  | linacIntegrals
  | radiationIntegrals
  | trackingSettings
  | fieldSample
  | planeSummary
  | element
  | lattice
deriving DecidableEq, Repr

namespace RecordKind

/-- The type of the records of a kind. -/
abbrev Carrier : RecordKind → Type
  | phaseSpace => PhaseSpace
  | twiss => Twiss
  | dispersion => Dispersion
  | floorPosition => FloorPosition
  | wigglerTerm => WigglerTerm
  | taylorTerm => TaylorTerm
  | taylorSeries => TaylorSeries
  | wakeSample => WakeSample
  | pseudoMode => PseudoMode
  | cavityMode => CavityMode
  | wakefield => Wakefield
  | controlLink => ControlLink
  | beamParameters => BeamParameters
  | normalMode => NormalMode
  | linacIntegrals => LinacIntegrals
  | radiationIntegrals => RadiationIntegrals
  | trackingSettings => TrackingSettings
  | fieldSample => FieldSample
  | planeSummary => PlaneSummary
  | element => Element
  | lattice => Lattice

instance instRecord : (k : RecordKind) → Record k.Carrier
  | phaseSpace => inferInstanceAs (Record PhaseSpace)
  | twiss => inferInstanceAs (Record Twiss)
  | dispersion => inferInstanceAs (Record Dispersion)
  | floorPosition => inferInstanceAs (Record FloorPosition)
  | wigglerTerm => inferInstanceAs (Record WigglerTerm)
  | taylorTerm => inferInstanceAs (Record TaylorTerm)
  | taylorSeries => inferInstanceAs (Record TaylorSeries)
  | wakeSample => inferInstanceAs (Record WakeSample)
  | pseudoMode => inferInstanceAs (Record PseudoMode)
  | cavityMode => inferInstanceAs (Record CavityMode)
  | wakefield => inferInstanceAs (Record Wakefield)
  | controlLink => inferInstanceAs (Record ControlLink)
  | beamParameters => inferInstanceAs (Record BeamParameters)
  | normalMode => inferInstanceAs (Record NormalMode)
  | linacIntegrals => inferInstanceAs (Record LinacIntegrals)
  | radiationIntegrals => inferInstanceAs (Record RadiationIntegrals)
  | trackingSettings => inferInstanceAs (Record TrackingSettings)
  | fieldSample => inferInstanceAs (Record FieldSample)
  | planeSummary => inferInstanceAs (Record PlaneSummary)
  | element => inferInstanceAs (Record Element)
  | lattice => inferInstanceAs (Record Lattice)

/-- All kinds, in the order in which they are tested. -/
def all : List RecordKind := [
  phaseSpace, twiss, dispersion, floorPosition, wigglerTerm, taylorTerm, taylorSeries, wakeSample,
  pseudoMode, cavityMode, wakefield, controlLink, beamParameters, normalMode, linacIntegrals,
  radiationIntegrals, trackingSettings, fieldSample, planeSummary, element, lattice]

/-- The name of a kind. -/
def name (k : RecordKind) : String :=
  Record.name k.Carrier

/-- The kind of a name. -/
def ofName? (name : String) : Option RecordKind :=
  all.find? fun k => k.name = name

end RecordKind

end Accelerator
