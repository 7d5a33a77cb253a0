import FlutterWlroots.Lib.LittleEndian
import FlutterWlroots.Lib.Block
import FlutterWlroots.Lib.CInt
import FlutterWlroots.Lib.StateRun
import FlutterWlroots.Lib.Machine
import FlutterWlroots.Lib.LinkedList
import FlutterWlroots.Lib.Store
import FlutterWlroots.Lib.FreshMap
import FlutterWlroots.Lib.CBuffer
import FlutterWlroots.Lib.Double
import FlutterWlroots.Codec.StdValue
import FlutterWlroots.Codec.JsonValue
import FlutterWlroots.Codec.WireFormat
import FlutterWlroots.Codec.PlatchDecode
import FlutterWlroots.Codec.PlatchDecodeWire
import FlutterWlroots.Codec.PlatchEncode
import FlutterWlroots.Codec.PlatchEncodeWire
import FlutterWlroots.Codec.PlatchRoundTrip
import FlutterWlroots.Codec.MessageRead
import FlutterWlroots.Codec.MessageReadWire
import FlutterWlroots.Codec.MessageBuilder
import FlutterWlroots.Codec.MessageBuilderSpec
import FlutterWlroots.Codec.MessageBuilderRun
import FlutterWlroots.Codec.MessageBuilderPrefix
import FlutterWlroots.Codec.MessageBuilderTree
import FlutterWlroots.Tasks.TaskQueue
import FlutterWlroots.Tasks.TaskSchedule
import FlutterWlroots.Tasks.TaskLists
import FlutterWlroots.Tasks.TaskOrder
import FlutterWlroots.Compositor.Instance
import FlutterWlroots.Compositor.Handles
import FlutterWlroots.Compositor.Output
import FlutterWlroots.Compositor.Surface
import FlutterWlroots.Compositor.Events
import FlutterWlroots.Compositor.Links
import FlutterWlroots.Compositor.TextureTables
import FlutterWlroots.Compositor.TextureEffects
import FlutterWlroots.Compositor.Textures
import FlutterWlroots.Compositor.References
import FlutterWlroots.Compositor.Parents
import FlutterWlroots.TextInput.TextInput
import FlutterWlroots.TextInput.TextInputState
import FlutterWlroots.Renderer.BackingStores
import FlutterWlroots.Renderer.DmabufImport
import FlutterWlroots.Renderer.DmabufTexture
import FlutterWlroots.Lib.SlotTable
import FlutterWlroots.Codec.Messages
import FlutterWlroots.Input.Pointer
import FlutterWlroots.Input.PointerEvents
import FlutterWlroots.Input.Buttons
import FlutterWlroots.Input.ButtonTracking
import FlutterWlroots.Lib.Positions
import FlutterWlroots.Input.ButtonDelivery
import FlutterWlroots.Input.Scrolling
import FlutterWlroots.Platform.FwrInstance
import FlutterWlroots.Platform.Methods
import FlutterWlroots.Platform.MistypedArguments
import FlutterWlroots.Platform.StaleHandles
import FlutterWlroots.Lib.Election
import FlutterWlroots.Platform.VsyncDriver
import FlutterWlroots.Compositor.VsyncBaton
import FlutterWlroots.Input.PointerPhases
import FlutterWlroots.Compositor.TextureLives
import FlutterWlroots.Compositor.TextureBalance
import FlutterWlroots.Compositor.OutputLinks
import FlutterWlroots.Compositor.OutputFollowing
import FlutterWlroots.Compositor.WindowFrames
import FlutterWlroots.Lib.Channel
import FlutterWlroots.Desktop.Shell
import FlutterWlroots.Desktop.PointerOutcomes
import FlutterWlroots.Desktop.ShellSteps
import FlutterWlroots.Lib.FocusHandover
import FlutterWlroots.Desktop.Activation
import FlutterWlroots.Lib.Watch
import FlutterWlroots.Desktop.Placement
import FlutterWlroots.Lib.Mirror
import FlutterWlroots.Desktop.SurfaceTable
import FlutterWlroots.Desktop.Decorations
import FlutterWlroots.Desktop.Geometries
import FlutterWlroots.Lib.Scanner
import FlutterWlroots.Codec.MessageReadScan
import FlutterWlroots.Codec.PlatchPasses
import FlutterWlroots.Codec.MessageBuilderBounds
import FlutterWlroots.Codec.TypedLists
import FlutterWlroots.Input.ButtonTimes
import FlutterWlroots.Lib.Signals
import FlutterWlroots.Compositor.ViewListeners
import FlutterWlroots.Lib.Alternation
import FlutterWlroots.Desktop.KeyForwarding
import FlutterWlroots.Lib.KeyedTable
import FlutterWlroots.Dart.DisplayOutputs
import FlutterWlroots.Dart.PlatformKeyboard
import FlutterWlroots.Codec.JsonEncode
import FlutterWlroots.Codec.JsonPasses
import FlutterWlroots.Codec.DecodedArrays
import FlutterWlroots.Lib.TextField
import FlutterWlroots.TextInput.KeyEditing
import FlutterWlroots.Lib.Utf8
import FlutterWlroots.TextInput.KeyUtf8
import FlutterWlroots.Codec.ValueEquals
import FlutterWlroots.Codec.ValueEqualsLoops
import FlutterWlroots.Codec.ValueEqualsStd
import FlutterWlroots.Codec.ValueEqualsJson
import FlutterWlroots.Codec.Jsmn
import FlutterWlroots.Codec.JsmnTokens
import FlutterWlroots.Codec.JsonDecode
import FlutterWlroots.Lib.SameRun
import FlutterWlroots.Codec.JsonInPlace
import FlutterWlroots.Codec.JsonWalk
import FlutterWlroots.Codec.JsonMethodCall
import FlutterWlroots.Lib.Rfc8259
import FlutterWlroots.Lib.Rfc8259Unique
import FlutterWlroots.Lib.PrintfG
import FlutterWlroots.Lib.Rfc8259Raw
import FlutterWlroots.Codec.JsonWriter
import FlutterWlroots.Codec.JsmnDocument
import FlutterWlroots.Codec.JsonReader
import FlutterWlroots.TextInput.KeyComposing
import FlutterWlroots.Dart.KeyboardClient
import FlutterWlroots.Input.ResizeGrab
import FlutterWlroots.Lib.CircularList
import FlutterWlroots.Desktop.WindowCycle
import FlutterWlroots.Desktop.AltTab
import FlutterWlroots.Compositor.PopupTrees
import FlutterWlroots.Lib.Naming
import FlutterWlroots.Input.ButtonTable
import FlutterWlroots.Compositor.ButtonKeys
import FlutterWlroots.Compositor.VsyncRate
import FlutterWlroots.Codec.SegmentAccounting
import FlutterWlroots.Codec.MessageFields
import FlutterWlroots.Compositor.LiveObjects
import FlutterWlroots.Codec.PlatchDecodeBounds
import FlutterWlroots.Codec.JsonStops
import FlutterWlroots.TextInput.UnterminatedText
import FlutterWlroots.Input.Replies
import FlutterWlroots.Platform.PlatformMessages
import FlutterWlroots.Platform.MethodReplies
import FlutterWlroots.Platform.AnsweredOnce
import FlutterWlroots.Lib.Corners
import FlutterWlroots.Lib.Rounding
import FlutterWlroots.Lib.Ledger
import FlutterWlroots.Renderer.Geometry
import FlutterWlroots.Renderer.TransformedClips
import FlutterWlroots.Renderer.RoundedClips
import FlutterWlroots.Renderer.ScaledEdges
import FlutterWlroots.Codec.JsonBlocks
import FlutterWlroots.Codec.ValueEqualsReads
import FlutterWlroots.Renderer.SceneLayers
import FlutterWlroots.Renderer.MutationStack
import FlutterWlroots.Renderer.RoundedShader
import FlutterWlroots.Platform.PlatchSend
import FlutterWlroots.Lib.Announcements
import FlutterWlroots.Desktop.OutputAnnouncements
import FlutterWlroots.Input.TouchPhases
import FlutterWlroots.Lib.LedgerRun
import FlutterWlroots.Codec.StdBlocks
import FlutterWlroots.Compositor.ChildFrames
import FlutterWlroots.Desktop.ChildSurfaces
import FlutterWlroots.Desktop.SubsurfaceTable
import FlutterWlroots.Desktop.PopupTable
import FlutterWlroots.Dart.Requests
import FlutterWlroots.Platform.Requests
import FlutterWlroots.Lib.SlotCache
import FlutterWlroots.Renderer.SoftwareCursor
import FlutterWlroots.Codec.MethodNames
import FlutterWlroots.Codec.JsonRoundTrip
