import DebugSymbols.Main
import DebugSymbols.Proofs.Recorder.Tables
import DebugSymbols.Proofs.Recorder.Spans
import DebugSymbols.Proofs.SymbolFile.Canonical
import DebugSymbols.Proofs.SymbolFile.Lines
import DebugSymbols.Proofs.SymbolFile.Recall
import DebugSymbols.Proofs.Recorder.Placeless
import DebugSymbols.Proofs.Trace.Events
import DebugSymbols.Proofs.Trace.Placeless
import DebugSymbols.Proofs.Recorder.Repetition
import DebugSymbols.Proofs.Trace.SecondPass
import DebugSymbols.Proofs.Recorder.Steering
import DebugSymbols.Proofs.Recorder.Switching
import DebugSymbols.Proofs.Recorder.Rearrangement
import DebugSymbols.Proofs.Trace.Stretches
import DebugSymbols.Proofs.Trace.ModuleNames
import DebugSymbols.Proofs.FileTree
import DebugSymbols.Proofs.Session
import DebugSymbols.Proofs.Settings.Document
import DebugSymbols.Proofs.Yaml.Depth
import DebugSymbols.Proofs.Text.Ascii
import DebugSymbols.Proofs.Text.Words
import DebugSymbols.Proofs.Trace.LabelNames
import DebugSymbols.Proofs.SymbolFile.Framing
import DebugSymbols.Proofs.Trace.Framing
import DebugSymbols.Proofs.Recorder.Saving
import DebugSymbols.Proofs.Numeral.Reading
import DebugSymbols.Proofs.Text.Cut
import DebugSymbols.Proofs.Trace.Number
import DebugSymbols.Proofs.Trace.Grammar
import DebugSymbols.Proofs.Trace.Places
import DebugSymbols.Proofs.Listing
import DebugSymbols.Proofs.Table.Interning
