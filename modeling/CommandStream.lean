import CommandStream.Description.Key
import CommandStream.Description.Membership
import CommandStream.Description.Refinement
import CommandStream.Emission.Artifact
import CommandStream.Emission.Build
import CommandStream.Emission.Emitter
import CommandStream.Emission.Statement
import CommandStream.Emission.Support
import CommandStream.Floating.Binary
import CommandStream.Floating.Shortest
import CommandStream.Header.Declaration
import CommandStream.Header.Extraction
import CommandStream.Keyed
import CommandStream.Listing.CommandTable
import CommandStream.Listing.EnumTable
import CommandStream.Log
import CommandStream.Main
import CommandStream.Markup.Character
import CommandStream.Markup.Charset
import CommandStream.Markup.Declarations
import CommandStream.Markup.Document
import CommandStream.Markup.DocumentType
import CommandStream.Markup.Element
import CommandStream.Markup.Encoding
import CommandStream.Markup.Event
import CommandStream.Markup.Growth
import CommandStream.Markup.Reference
import CommandStream.Outcome
import CommandStream.Override.Module
import CommandStream.Override.Rule
import CommandStream.Override.Tracker
import CommandStream.Path
import CommandStream.Program.FileTree
import CommandStream.Program.Files
import CommandStream.Program.Generator
import CommandStream.Program.Numeral
import CommandStream.Program.Options
import CommandStream.Program.Recording
import CommandStream.Program.Tables
import CommandStream.Proofs.Slot.History
import CommandStream.Proofs.Slot.Occupancy
import CommandStream.Queue.Basic
import CommandStream.Queue.Command
import CommandStream.Queue.Native
import CommandStream.Registry.Basic
import CommandStream.Registry.Edit
import CommandStream.Signature
import CommandStream.Slot.Handle
import CommandStream.Slot.Resource
import CommandStream.Slot.Table
import CommandStream.Text.CaseMap
import CommandStream.Text.Category
import CommandStream.Text.Class
import CommandStream.Text.CodePage
import CommandStream.Text.Edit
import CommandStream.Text.Line
import CommandStream.Text.Quoted
import CommandStream.Text.Utf8
import CommandStream.Value
import CommandStream.Wire.Buffer
import CommandStream.Wire.Codec
import CommandStream.Wire.Format
import CommandStream.Wire.Letters
import CommandStream.Wire.Type
import CommandStream.Proofs.Wire.Record
import CommandStream.Proofs.Wire.Transfer
import CommandStream.Proofs.Wire.Single
import CommandStream.Proofs.Queue.Backlog
import CommandStream.Proofs.Lookup
import CommandStream.Proofs.Slot.Tables
import CommandStream.Proofs.Queue.Regularity
import CommandStream.Proofs.Queue.Dispatch
import CommandStream.Proofs.Queue.Refinement
import CommandStream.Proofs.Registry.Filed
import CommandStream.Proofs.Override.Reshape
import CommandStream.Proofs.Override.Application
import CommandStream.Proofs.Override.Refusal
import CommandStream.Proofs.Override.Feasible
import CommandStream.Proofs.Registry.Parsed
import CommandStream.Proofs.Registry.Indexed
import CommandStream.Proofs.Override.Registering
import CommandStream.Proofs.Override.BuiltIn
import CommandStream.Proofs.Emission.Ids
import CommandStream.Proofs.Emission.Sides
import CommandStream.Proofs.Emission.Printed
import CommandStream.Proofs.Emission.Layout
import CommandStream.Proofs.Queue.Account
import CommandStream.Proofs.Queue.Keeping
import CommandStream.Proofs.Queue.Lifetime
import CommandStream.Proofs.Wire.Exchange
import CommandStream.Proofs.Queue.Rejection
import CommandStream.Proofs.Queue.Refusal
import CommandStream.Proofs.Description.Retyping
import CommandStream.Proofs.Description.Marshalling
import CommandStream.Proofs.Override.Table
import CommandStream.Proofs.Emission.Numbering
import CommandStream.Proofs.Override.Interchange
import CommandStream.Proofs.Emission.Interchange
import CommandStream.Proofs.Override.Commuting
import CommandStream.Proofs.Override.Independence
import CommandStream.Proofs.Queue.States
import CommandStream.Proofs.Registry.ShortNames
import CommandStream.Proofs.Emission.NativeCalls
import CommandStream.Proofs.Description.Provenance
import CommandStream.Proofs.Emission.Declared
import CommandStream.Proofs.Override.Kinds
import CommandStream.Proofs.Queue.Draining
import CommandStream.Proofs.Text.Trimmed
import CommandStream.Proofs.Text.Plain
import CommandStream.Proofs.Text.Phrase
import CommandStream.Proofs.Header.Lines
import CommandStream.Proofs.Header.RoundTrip
import CommandStream.Proofs.Header.Account
import CommandStream.Proofs.Description.Mentions
import CommandStream.Proofs.Description.Resolution
import CommandStream.Proofs.Description.Rearranged
import CommandStream.Proofs.Wire.Leftover
import CommandStream.Proofs.Wire.Layout
import CommandStream.Proofs.Wire.Cursors
import CommandStream.Proofs.Emission.Enumerators
import CommandStream.Proofs.Override.Following
import CommandStream.Proofs.Wire.Letters
import CommandStream.Proofs.Wire.Values
import CommandStream.Proofs.Slot.Transition
import CommandStream.Proofs.Slot.Allocation
import CommandStream.Proofs.Slot.Separation
import CommandStream.Proofs.Registry.Renames
import CommandStream.Proofs.Registry.Names
import CommandStream.Proofs.Emission.Emittable
import CommandStream.Proofs.Emission.Locals
import CommandStream.Proofs.Header.Complaints
import CommandStream.Proofs.Description.Demands
import CommandStream.Proofs.Description.Listed
import CommandStream.Proofs.Emission.Labels
import CommandStream.Proofs.Override.Untouched
import CommandStream.Proofs.Emission.ClassTable
import CommandStream.Proofs.Description.Keys
import CommandStream.Proofs.Program.Places
import CommandStream.Proofs.Program.Generation
