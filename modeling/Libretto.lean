import Libretto.Binary64
import Libretto.Dialogue
import Libretto.Document
import Libretto.Edit
import Libretto.Fault
import Libretto.Field
import Libretto.FileTree
import Libretto.FileTree.Directories
import Libretto.Grouping
import Libretto.HexId
import Libretto.HexId.Value
import Libretto.Journal
import Libretto.Json.Error
import Libretto.Json.Printer
import Libretto.Json.Reader
import Libretto.Label
import Libretto.LogFile
import Libretto.Notice
import Libretto.Numeral
import Libretto.OrderedMap
import Libretto.Path
import Libretto.Proofs.FailedLoads
import Libretto.Proofs.Edits
import Libretto.Proofs.GroupOrder
import Libretto.Proofs.HexNumerals
import Libretto.Proofs.LoadAgreement
import Libretto.Proofs.OrderedMaps
import Libretto.Proofs.Rereading
import Libretto.Proofs.Restoration
import Libretto.Proofs.RoundTrips
import Libretto.Proofs.SceneBuilding
import Libretto.Proofs.SceneStoring
import Libretto.Proofs.Sessions
import Libretto.Proofs.SortedLists
import Libretto.Proofs.SpeakerKeys
import Libretto.Proofs.StagedScripts
import Libretto.Proofs.Transcription
import Libretto.Scene
import Libretto.Script
import Libretto.ScriptExport
import Libretto.ScriptImport
import Libretto.Settings
import Libretto.Setup
import Libretto.Sorting
import Libretto.Source
import Libretto.Staging
import Libretto.Text.Blank
import Libretto.Text.Digit
import Libretto.Text.Printable
import Libretto.Text.Quoted
import Libretto.TextImport
import Libretto.TextStore
import Libretto.Timing
import Libretto.Value
import Libretto.Proofs.GroupReading
import Libretto.Proofs.GroupingRuns
import Libretto.Proofs.SceneMoves
import Libretto.Proofs.GroupDocuments
import Libretto.Proofs.Deliveries
import Libretto.Proofs.InputOrder
import Libretto.Proofs.StoreSteps
import Libretto.Proofs.StoredScenes
import Libretto.Proofs.GroupedScripts
import Libretto.Proofs.Announcements
import Libretto.Proofs.TextMerging
import Libretto.Proofs.TextRuns
import Libretto.Proofs.PrintedDocuments
import Libretto.Proofs.TextDocuments
import Libretto.Proofs.DocumentedScenes
import Libretto.Proofs.DecodingFaults
import Libretto.Proofs.LoadFaults
import Libretto.Proofs.DocumentForms
import Libretto.Proofs.Warnings
import Libretto.Proofs.WrittenScripts
import Libretto.Proofs.HalvingInsertion
import Libretto.Proofs.DecodedValues
import Libretto.Proofs.GroupClosedForm
import Libretto.Proofs.TextConservation
import Libretto.Proofs.SectionOrder
import Libretto.Proofs.BaseFiles
import Libretto.Proofs.SavedContent
import Libretto.Proofs.DocumentSchemas
import Libretto.Proofs.NormalDocuments
import Libretto.Proofs.UnknownSpeakers
import Libretto.Proofs.NormalPaths
import Libretto.Proofs.NormalSettings
import Libretto.Proofs.SpelledIds
import Libretto.Proofs.SettingFaults
