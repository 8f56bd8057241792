import Sprefence.PictureCodec
import Sprefence.Arrival
import Sprefence.Isolation
import Sprefence.HazardSetting
import Sprefence.ForcedSwitch
import Sprefence.SwitchFile
import Sprefence.WebSource.Framing
import Sprefence.WebSource.LifeCycle
import Sprefence.Detector.Reference
import Sprefence.Detector.Overflow
import Sprefence.Detector.Brightness
import Sprefence.Detector.LumaCentre
import Sprefence.Detector.SkinSamples
import Sprefence.Detector.Decision
import Sprefence.Face.Tracking
import Sprefence.Face.Seeds
import Sprefence.Face.Merging
import Sprefence.Face.Overlap
import Sprefence.Face.FaceLoop
import Sprefence.Face.Capture
import Sprefence.Server.Corners
import Sprefence.Server.Run
import Sprefence.Server.Contents
import Sprefence.Server.MainWindow
import Sprefence.Page.Calibration
import Sprefence.DeviceSetting
import Sprefence.Face.Memory
import Sprefence.Face.Pins
import Sprefence.Lib.CircularBuffer
import Sprefence.Lib.Links
import Sprefence.Link
import Sprefence.Serial.Commands
import Sprefence.Serial.Delivery
import Sprefence.Serial.Picture
import Sprefence.Serial.Stall
import Sprefence.Video.Driver
import Sprefence.Video.Shared
import Sprefence.Video.Stream
