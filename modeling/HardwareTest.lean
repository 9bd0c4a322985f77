import HardwareTest.Config.Loaders
import HardwareTest.Services.TestManager
import HardwareTest.Services.Ownership
import HardwareTest.Services.GpioRoundTrip
import HardwareTest.Engine.Exclusion
import HardwareTest.Engine.Submission
import HardwareTest.Plugins.GpioAccounting
import HardwareTest.Services.Atomicity
import HardwareTest.Engine.Conservation
import HardwareTest.Common.Logger
import HardwareTest.Validation.System
import HardwareTest.Validation.Listing
import HardwareTest.Services.Registries
import HardwareTest.Services.PluginManager
import HardwareTest.Services.PluginLifecycle
import HardwareTest.Engine.Lifetime
import HardwareTest.Plugins.GpioReconfigure
import HardwareTest.Engine.IdleEngine
import HardwareTest.Engine.Scheduling
import HardwareTest.Engine.Execute
import HardwareTest.Engine.RunInstance
import HardwareTest.Engine.Registration
import HardwareTest.Config.ParameterBounds
import HardwareTest.Services.RuntimeManager
import HardwareTest.Services.StartUp
import HardwareTest.Hal.GpioTransfer
import HardwareTest.Services.GpioDecoder
import HardwareTest.Services.GpioPrepopulated
import HardwareTest.Plugins.I2cDevice
import HardwareTest.Config.Manager
import HardwareTest.Services.OpenedPaths
import HardwareTest.Config.Reload
import HardwareTest.Config.ReloadBindings
import HardwareTest.Config.ReloadManager
import HardwareTest.Services.TestReporter
import HardwareTest.Validation.Implemented
import HardwareTest.Common.LoggerShutdown
import HardwareTest.Validation.RunAll
import HardwareTest.Services.DeviceCommands
import HardwareTest.Services.ResourceNames
import HardwareTest.Cli.CliParser
import HardwareTest.Lib.Cells
import HardwareTest.Services.DeviceManagerRestart
import HardwareTest.Services.GpioBounds
import HardwareTest.Lib.ByteMemory
import HardwareTest.Common.SafeStrcat
import HardwareTest.Config.FileReading
import HardwareTest.Json.Buffer
import HardwareTest.Json.Grammar
import HardwareTest.Json.Print
import HardwareTest.Config.TextFiles
import HardwareTest.Lib.Client
import HardwareTest.Program.Commands
import HardwareTest.Program.Main
import HardwareTest.Program.FromTexts
import HardwareTest.Hal.GpioHandle
import HardwareTest.Hal.HandleAccounting
import HardwareTest.Validation.StatusIndication
import HardwareTest.Validation.StatusLines
import HardwareTest.Engine.Shutdown
import HardwareTest.Program.Shutdown
import HardwareTest.Services.WrittenTables
